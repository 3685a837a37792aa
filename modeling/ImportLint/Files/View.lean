import ImportLint.Failure

/-!
# Files — what is seen of them

All that resolution, snapshots and configs ask of a file system: the text of a file, and what
stands at a path.

* `FileView`: the two questions, each of which can fail.
* `FileView.fileExists`: absence is an answer, any other failure is an error.
-/

namespace ImportLint

/-- What stands at a path. -/
structure FileStat where
  /-- The size in bytes. -/
  length : Nat
  isFile : Bool
  isDirectory : Bool
deriving DecidableEq, Repr, Inhabited

/-- A file system as it can be seen at one moment. -/
structure FileView where
  read : Path → Except IoFailure Text
  stat : Path → Except IoFailure FileStat

namespace FileView

/-- Whether a regular file stands at a path.  A failure that does not mean absence is passed
on. -/
def fileExists (v : FileView) (p : Path) : Except LintError Bool :=
  match v.stat p with
  | .ok s => .ok s.isFile
  | .error f => if f.kind.isAbsence then .ok false else .error (.stat p f)

/-- Whether a regular file is seen at a path; a failure counts as none. -/
def isFile (v : FileView) (p : Path) : Bool :=
  match v.stat p with
  | .ok s => s.isFile
  | .error _ => false

/-- Whether a directory is seen at a path; a failure counts as none. -/
def isDirectory (v : FileView) (p : Path) : Bool :=
  match v.stat p with
  | .ok s => s.isDirectory
  | .error _ => false

end FileView

end ImportLint
