import ImportLint.Files.View
import ImportLint.Table

/-!
# Files — in memory

A tree of files held in memory.  Directories are implied by the files below them, and any path
can be made to fail.
-/

namespace ImportLint

structure MemoryTree where
  files : Table (List Component) Text := {}
  failures : Table (List Component) IoKind := {}

namespace MemoryTree

instance : Inhabited MemoryTree := ⟨{}⟩

/-- Creates or overwrites a file. -/
def write (t : MemoryTree) (p : Path) (content : Text) : MemoryTree :=
  { t with files := t.files.insert p.components content }

/-- Makes every access to a path fail. -/
def fail (t : MemoryTree) (p : Path) (kind : IoKind) : MemoryTree :=
  { t with failures := t.failures.insert p.components kind }

/-- Undoes `fail`. -/
def clearFailure (t : MemoryTree) (p : Path) : MemoryTree :=
  { t with failures := t.failures.erase p.components }

def ofFiles (files : List (Path × Text)) : MemoryTree :=
  files.foldl (fun t f => t.write f.1 f.2) {}

/-- The failure of an access to a path, if it is to fail. -/
def failure? (t : MemoryTree) (p : Path) : Option IoFailure :=
  (t.failures.get? p.components).map fun kind => ⟨kind, p.toString⟩

def absent (p : Path) : IoFailure := ⟨.notFound, s!"{p} not in memory tree"⟩

def read (t : MemoryTree) (p : Path) : Except IoFailure Text :=
  match t.failure? p with
  | some f => .error f
  | none =>
    match t.files.get? p.components with
    | some content => .ok content
    | none => .error (absent p)

def stat (t : MemoryTree) (p : Path) : Except IoFailure FileStat :=
  match t.failure? p with
  | some f => .error f
  | none =>
    match t.files.get? p.components with
    | some content => .ok ⟨content.byteLength, true, false⟩
    | none =>
      if t.files.keys.any fun file => p.components.isPrefixOf file then .ok ⟨0, false, true⟩
      else .error (absent p)

def view (t : MemoryTree) : FileView := ⟨t.read, t.stat⟩

end MemoryTree

end ImportLint
