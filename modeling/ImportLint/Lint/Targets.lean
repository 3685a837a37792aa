import ImportLint.Files.Walk
import ImportLint.Glob.Rules
import ImportLint.ModuleKind
import ImportLint.Package.Specifier
import ImportLint.Path.Ancestors
import ImportLint.Path.Normal

/-!
# Linting — the files that arguments name

A file is named directly, a directory stands for the modules in it.  Ignore files are obeyed:
those of a directory, of the directories around it, and of the directories around the one that
is walked.  A nearer file outweighs one further up, and each kind of file outweighs the next.

* `IgnoreFiles.ofDirectory`: the ignore files of one directory.
* `IgnoreScope.verdict`: what all of them say about a path.
* `lintTargets`: the files that arguments name, in order and each once.
-/

namespace ImportLint

/-- The rules that hold below one directory, the strongest kind first. -/
structure IgnoreFiles where
  own : RuleList
  versioned : RuleList
  repository : RuleList
deriving Repr, Inhabited

namespace IgnoreFiles

/-- The rules of a file, if it can be read. -/
def rulesAt (view : FileView) (dir : Path) (file : String) : RuleList :=
  match view.read (dir.join (Path.ofString file)) with
  | .ok text => RuleList.ofText dir text
  | .error _ => ⟨dir, []⟩

/-- The ignore files of a directory. -/
def ofDirectory (view : FileView) (dir : Path) : IgnoreFiles where
  own := rulesAt view dir ".ignore"
  versioned := rulesAt view dir ".gitignore"
  repository := rulesAt view dir ".git/info/exclude"

end IgnoreFiles

/-- The rules that hold within a directory of a walk. -/
structure IgnoreScope where
  /-- Those of the directories of the walk, the nearest first. -/
  inside : List IgnoreFiles := []
  /-- Those of the directories around the walk, the nearest first. -/
  outside : List IgnoreFiles
  /-- The directory that is walked, as it was named. -/
  root : Path
  /-- The same directory without links. -/
  physicalRoot : Path
deriving Repr, Inhabited

namespace IgnoreScope

/-- A path of the walk, without links down to the directory that is walked. -/
def physical (s : IgnoreScope) (p : Path) : Path :=
  match Text.stripStart s.root.chars p.chars with
  | some rest => s.physicalRoot.join ⟨(Text.stripStart ['/'] rest).getD rest⟩
  | none => s.physicalRoot.join p

/-- What one kind of rules says: the nearest directory that has something to say decides. -/
def verdictOf (s : IgnoreScope) (kind : IgnoreFiles → RuleList) (p : Path) (isDirectory : Bool) :
    Option Verdict :=
  (s.inside.findSome? fun f => (kind f).verdict p isDirectory).or
    (s.outside.findSome? fun f => (kind f).verdict (s.physical p) isDirectory)

/-- What the rules say about a path, stronger kinds first. -/
def verdict (s : IgnoreScope) (p : Path) (isDirectory : Bool) : Option Verdict :=
  ((s.verdictOf IgnoreFiles.own p isDirectory).or
    (s.verdictOf IgnoreFiles.versioned p isDirectory)).or
    (s.verdictOf IgnoreFiles.repository p isDirectory)

/-- The rules within a directory of the walk. -/
def enter (view : FileView) (s : IgnoreScope) (dir : Path) : IgnoreScope :=
  { s with inside := .ofDirectory view dir :: s.inside }

/-- The rules around a directory that is to be walked. -/
def around (view : FileView) (root physicalRoot : Path) : IgnoreScope where
  outside := (physicalRoot.ancestors.drop 1).map (.ofDirectory view)
  root
  physicalRoot

end IgnoreScope

/-- Folders that are never walked into. -/
def skippedFolders : List Text := [dependencyFolder, ".git".toList]

/-- Whether the walk goes on with an entry. -/
def IgnoreScope.admits (s : IgnoreScope) (p : Path) (isDirectory : Bool) : Bool :=
  s.verdict p isDirectory != some .ignored
    && !(isDirectory && skippedFolders.contains (p.fileName.getD []))

/-- A module with code in it. -/
def isLintable (p : Path) : Bool :=
  match ModuleKind.ofPath p with
  | some kind => kind != .json
  | none => false

/-- The modules below a directory. -/
def modulesBelow (disk : Disk) (dir : Path) : List Path :=
  let view := disk.view none
  match disk.resolve none dir with
  | .error _ => []
  | .ok (place, _) =>
    let scope := IgnoreScope.around view dir ⟨'/' :: Path.joinSegments place⟩
    (disk.walk (IgnoreScope.enter view) IgnoreScope.admits scope dir).filter fun p =>
      view.isFile p && isLintable p

/-- The files that arguments name, seen from a working directory. -/
def lintTargets (disk : Disk) (cwd : Path) (arguments : List Path) :
    Except LintError (List Path) :=
  let view := disk.view none
  let found := arguments.flatMap fun argument =>
    let p := (cwd.join argument).normalize
    if view.isDirectory p then modulesBelow disk p
    else if view.isFile p && isLintable p then [p]
    else []
  match Path.sorted found with
  | [] => .error .noInputs
  | targets => .ok targets

end ImportLint
