import ImportLint.Files.Walk
import ImportLint.ModuleKind
import ImportLint.Path.Ancestors
import ImportLint.Project.Config
import ImportLint.Resolution.Resolver

/-!
# Projects — source files

* `ProjectConfig.scriptFiles`: the listed files, and those below the root that the patterns
  take, in order and each once.
* `ProjectConfig.ambientTypes`: where ambient packages of the project are looked up.
* `findUp`: the nearest file with a name.
-/

namespace ImportLint

/-- The nearest file with a name, from a directory upwards. -/
def findUp (view : FileView) (start : Path) (name : Text) : Option Path :=
  (start.ancestors.map fun dir => dir.join ⟨name⟩).find? view.isFile

/-- The nearest project config at or above a directory. -/
def findProjectConfig (view : FileView) (start : Path) : Option Path :=
  findUp view start configFileName

namespace ProjectConfig

/-- Whether the project would compile a file, judging by its name. -/
def acceptsExtension (c : ProjectConfig) (p : Path) : Bool :=
  match ModuleKind.ofPath p with
  | some kind =>
    kind.isTyped || ((kind == .javaScript || kind == .jsx) && c.options.allowJs)
  | none => false

/-- Whether a walk below the root goes on with an entry: the filter takes it, or says nothing
and its name is not hidden. -/
def admits (filter : SourceFilter) (p : Path) (isDirectory : Bool) : Bool :=
  match filter.verdict p isDirectory with
  | some .kept => true
  | some .ignored => false
  | none => (p.fileName.getD []).head? != some '.'

/-- The files below the root that the patterns take.  They are listed from the disk and must
be seen in the view as well.  Without a filter there is no walk. -/
def matchedFiles (c : ProjectConfig) (view : FileView) (disk : Disk) (included : List Text)
    (compiler : SetCompiler := .standard) : List Path :=
  match SourceFilter.ofPatterns c.rootDir view.isDirectory included c.excluded compiler with
  | .error _ => []
  | .ok filter =>
    (disk.walk (fun () _ => ()) (fun () => admits filter) () c.rootDir).filter fun p =>
      c.acceptsExtension p && view.isFile p

/-- The files of the project. -/
def scriptFiles (c : ProjectConfig) (view : FileView) (disk : Disk)
    (compiler : SetCompiler := .standard) : List Path :=
  let listed := c.files.getD []
  let found := match c.included with
    | none => []
    | some included => c.matchedFiles view disk included compiler
  Path.sorted (listed ++ found)

/-- The folder of ambient packages within a dependency folder. -/
def typesFolder : Path := Path.ofString "@types"

/-- Where ambient packages are looked up.  Folders that nobody listed must exist. -/
def ambientTypes (c : ProjectConfig) (view : FileView) : AmbientTypes where
  roots := match c.options.typeRoots with
    | some roots => roots
    | none =>
      (c.rootDir.ancestors.map fun dir => (dir.join ⟨dependencyFolder⟩).join typesFolder).filter
        view.isDirectory
  allow := c.options.types

end ProjectConfig

end ImportLint
