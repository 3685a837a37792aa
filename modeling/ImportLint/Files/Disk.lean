import ImportLint.Files.View

/-!
# Files — on disk

A disk is a tree of files, directories and symbolic links.  A path is walked segment by
segment: links are followed, `..` leads to the physical parent, and only a directory has
anything below it.

* `Disk.resolve`: where a path leads, and what stands there.
* `Disk.view`: the disk as files and directories, seen from a working directory.
* `Disk.children`: the entries of a directory, links not followed.
-/

namespace ImportLint

/-- What stands at a place of a disk. -/
inductive DiskNode where
  | file (content : Text)
  | directory
  | link (target : Path)
deriving DecidableEq, Repr, Inhabited

/-- The places of a disk below its root directory, each named by the segments that lead to it.
Every place other than the root lies in a directory of the disk. -/
structure Disk where
  places : List (List Text × DiskNode) := []
deriving Repr, Inhabited

namespace Disk

/-- What stands at the end of a list of segments. -/
def node? (d : Disk) (place : List Text) : Option DiskNode :=
  if place.isEmpty then some .directory else d.places.lookup place

/-- The entries of a directory. -/
def children (d : Disk) (place : List Text) : List (Text × DiskNode) :=
  d.places.filterMap fun (at', node) =>
    match at'.getLast? with
    | some name => if at'.dropLast == place then some (name, node) else none
    | none => none

def noEntry : IoFailure := ⟨.notFound, "No such file or directory (os error 2)"⟩

def noDirectory : IoFailure := ⟨.notADirectory, "Not a directory (os error 20)"⟩

def isADirectory : IoFailure := ⟨.isADirectory, "Is a directory (os error 21)"⟩

def tooManyLinks : IoFailure :=
  ⟨.filesystemLoop, "Too many levels of symbolic links (os error 40)"⟩

/-- The number of links that one path may lead through. -/
def linkLimit : Nat := 40

/-- Follows segments from a place on. -/
def follow (d : Disk) (links : Nat) (place : List Text) (todo : List Text) :
    Except IoFailure (List Text × DiskNode) :=
  match todo with
  | [] =>
    match d.node? place with
    | some node => .ok (place, node)
    | none => .error noEntry
  | s :: todo =>
    if d.node? place ≠ some .directory then .error noDirectory
    else if s = [] ∨ s = ['.'] then follow d links place todo
    else if s = ['.', '.'] then follow d links place.dropLast todo
    else match d.node? (place ++ [s]) with
      | none => .error noEntry
      | some (.link target) =>
        match links with
        | 0 => .error tooManyLinks
        | links + 1 =>
          let start := if target.isAbsolute then [] else place
          follow d links start (Path.segments target.chars ++ todo)
      | some _ => follow d links (place ++ [s]) todo
termination_by (links, todo.length)

/-- Where a path leads.  A relative path starts at the working directory and leads nowhere
without one. -/
def resolve (d : Disk) (cwd : Option Path) (p : Path) :
    Except IoFailure (List Text × DiskNode) :=
  if p.chars.isEmpty then .error noEntry
  else if p.isAbsolute then d.follow linkLimit [] (Path.segments p.chars)
  else match cwd with
    | some dir => d.follow linkLimit [] (Path.segments dir.chars ++ Path.segments p.chars)
    | none => .error noEntry

def read (d : Disk) (cwd : Option Path) (p : Path) : Except IoFailure Text :=
  match d.resolve cwd p with
  | .ok (_, .file content) => .ok content
  | .ok _ => .error isADirectory
  | .error f => .error f

def stat (d : Disk) (cwd : Option Path) (p : Path) : Except IoFailure FileStat :=
  match d.resolve cwd p with
  | .ok (_, .file content) => .ok ⟨content.byteLength, true, false⟩
  | .ok _ => .ok ⟨0, false, true⟩
  | .error f => .error f

/-- The disk as it is seen from a working directory. -/
def view (d : Disk) (cwd : Option Path) : FileView := ⟨d.read cwd, d.stat cwd⟩

/-! ### Building -/

/-- Puts a node at a place, in place of what stood there. -/
def put (d : Disk) (place : List Text) (node : DiskNode) : Disk :=
  ⟨d.places.filter (fun e => e.1 != place) ++ [(place, node)]⟩

/-- Adds the directories that lead to a place and are not there yet. -/
def makeDirectories (d : Disk) (place : List Text) : Disk :=
  (List.range place.length).foldl (fun d n =>
    let upper := place.take (n + 1)
    match d.node? upper with
    | some _ => d
    | none => d.put upper .directory) d

/-- Adds a node at a place, with the directories above it. -/
def add (d : Disk) (place : List Text) (node : DiskNode) : Disk :=
  (d.makeDirectories place.dropLast).put place node

/-- The names of the segments that a path is spelled with. -/
def placeOf (p : Path) : List Text :=
  p.components.filterMap fun
    | .name n => some n
    | _ => none

/-- Writes a file, through links where the path leads through any. -/
def write (d : Disk) (p : Path) (content : Text) : Disk :=
  match d.resolve none p with
  | .ok (place, .file _) => d.put place (.file content)
  | _ => d.add (placeOf p) (.file content)

end Disk

end ImportLint
