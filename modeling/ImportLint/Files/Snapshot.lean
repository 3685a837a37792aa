import ImportLint.Files.View
import ImportLint.Path.Normal
import ImportLint.Report.Position
import ImportLint.Table

/-!
# Snapshots

A snapshot stands for a file of a session.  Its text is read when it is first asked for and
kept until the snapshot is disposed of, whatever happens to the file meanwhile.  So are the lines
of the text, which are found when they are first asked for.

* `SnapshotTable.get`: the snapshot of a path, one for all spellings of it.
* `SnapshotTable.dispose`: forgets the text with its lines and takes the snapshot out of the
  table; those who still hold it read the file again.
* `SnapshotTable.text`, `length`, `getText`, `lineTable`: what a snapshot tells.
-/

namespace ImportLint

/-- A file with the text read from it, if it has been read, and the lines of that text, if they
have been asked for. -/
structure Snapshot where
  path : Path
  loaded : Option Text := none
  lines : Option LineTable := none
deriving DecidableEq, Repr, Inhabited

/-- All snapshots ever made, in the order of their numbers, and those in the table. -/
structure SnapshotTable where
  made : Array Snapshot := #[]
  /-- The number of the snapshot of each normalized path. -/
  current : Table (List Component) Nat := {}

/-- The version of every snapshot: files do not change within a run. -/
def scriptVersion : String := "1"

/-- The text between two byte offsets, which are moved into the text and outwards to character
boundaries. -/
def Text.slice (text : Text) (start stop : Nat) : Text :=
  let size := text.byteLength
  let start := min start size
  let stop := min (max stop start) size
  let (before, rest) := Text.splitAtByte start text
  (Text.splitFromByte (stop - before.byteLength) rest).1

namespace SnapshotTable

instance : Inhabited SnapshotTable := ⟨{}⟩

def size (t : SnapshotTable) : Nat := t.current.size

def isEmpty (t : SnapshotTable) : Bool := t.current.isEmpty

/-- The snapshot of a path, made at the first request; none if there is no such file.  Nothing
is read. -/
def get (t : SnapshotTable) (view : FileView) (path : Path) :
    Except LintError (Option Nat) × SnapshotTable :=
  let key := path.normalize
  match t.current.get? key.components with
  | some id => (.ok (some id), t)
  | none =>
    match view.fileExists key with
    | .error e => (.error e, t)
    | .ok false => (.ok none, t)
    | .ok true =>
      let id := t.made.size
      (.ok (some id),
        { made := t.made.push { path := key }, current := t.current.insert key.components id })

/-- Takes the snapshot of a path out of the table and forgets its text with the lines; tells
whether there was one. -/
def dispose (t : SnapshotTable) (path : Path) : Bool × SnapshotTable :=
  let key := path.normalize.components
  match t.current.get? key with
  | none => (false, t)
  | some id =>
    (true,
      { made := t.made.modify id fun s => { s with loaded := none, lines := none }
        current := t.current.erase key })

def snapshot (t : SnapshotTable) (id : Nat) : Snapshot := t.made[id]?.getD default

def isLoaded (t : SnapshotTable) (id : Nat) : Bool := (t.snapshot id).loaded.isSome

/-- The text of a snapshot, read from the file if need be.  The lines of a text that has just been
read are not known. -/
def text (t : SnapshotTable) (view : FileView) (id : Nat) :
    Except LintError Text × SnapshotTable :=
  let s := t.snapshot id
  match s.loaded with
  | some text => (.ok text, t)
  | none =>
    match view.read s.path with
    | .error f => (.error (.fileRead s.path f), t)
    | .ok text =>
      (.ok text,
        { t with made := t.made.modify id fun s => { s with loaded := some text, lines := none } })

/-- The size of the text in bytes; of a file that has not been read, what the file system
says. -/
def length (t : SnapshotTable) (view : FileView) (id : Nat) : Except LintError Nat :=
  let s := t.snapshot id
  match s.loaded with
  | some text => .ok text.byteLength
  | none =>
    match view.stat s.path with
    | .error f => .error (.fileRead s.path f)
    | .ok stat => .ok stat.length

/-- A part of the text. -/
def getText (t : SnapshotTable) (view : FileView) (id start stop : Nat) :
    Except LintError Text × SnapshotTable :=
  let (text, t) := t.text view id
  (text.map fun text => text.slice start stop, t)

/-- The lines of the text, found at the first request and kept with it. -/
def lineTable (t : SnapshotTable) (view : FileView) (id : Nat) :
    Except LintError LineTable × SnapshotTable :=
  match t.text view id with
  | (.error f, t) => (.error f, t)
  | (.ok text, t) =>
    match (t.snapshot id).lines with
    | some lines => (.ok lines, t)
    | none =>
      let lines := .ofText text
      (.ok lines, { t with made := t.made.modify id fun s => { s with lines := some lines } })

end SnapshotTable

end ImportLint
