import ImportLint.Files.Snapshot
import ImportLint.Lint.Options
import ImportLint.Project.Sources
import ImportLint.Resolution.Cache
import ImportLint.SearchPaths

/-!
# Sessions — the host of a project

The host answers what a checking engine asks about one project: settings, files, snapshots and
resolutions.  It remembers its answers; the files are looked at through the view of the moment.

* `Host.resolve`, `Host.resolveAll`: references as written in a file, each resolved once.
* `Host.scriptFiles`: the files of the project, fixed at the first request.
* `Host.snapshot`, `Host.releaseSnapshot`, `Host.lineTable`: texts of files.
-/

namespace ImportLint

structure Host where
  config : ProjectConfig
  searchPaths : SearchPaths
  ambient : AmbientTypes
  libDir : Option Path
  snapshots : SnapshotTable := {}
  resolutions : ResolutionCache := {}
  resolver : Resolver := {}
  fileNames : Option (List Path) := none

namespace Host

/-- A host without memories.  Type roots are looked for at once. -/
def new (view : FileView) (config : ProjectConfig) (projectRoot : Path) (globals : List Path)
    (libDir : Option Path) : Host where
  config
  searchPaths := .new projectRoot globals
  ambient := config.ambientTypes view
  libDir

/-- A request to a host: it can fail, and what has been remembered stays also when it does. -/
abbrev Request := ExceptT LintError (StateM Host)

def currentDirectory (h : Host) : Path := h.config.rootDir

/-- The file that declares the default library, if it is known where the libraries lie. -/
def defaultLibrary (h : Host) : Option Path :=
  h.libDir.map fun dir => dir.join (Path.ofString h.config.options.target.defaultLibrary)

variable (view : FileView)

/-- What the resolver finds for a reference in a directory; only packages are searched for. -/
def lookup (h : Host) (directory : Path) (specifier : Text) :
    Except LintError (Option ResolvedModule) × Host :=
  if Specifier.isPath specifier then
    let (answer, resolver) := (Resolver.resolve view directory specifier [] none).run h.resolver
    (answer, { h with resolver })
  else
    let (roots, searchPaths) := h.searchPaths.forDirectory directory
    let (answer, resolver) :=
      (Resolver.resolve view directory specifier roots.value (some h.ambient)).run h.resolver
    (answer, { h with resolver, searchPaths })

/-- The directory that a file's references are seen from. -/
def directoryOf (file : Path) : Path := (file.parent.getD (Path.ofString "/")).normalize

/-- The module that a reference in a file stands for. -/
def resolve (specifier : Text) (file : Path) : Request (Option (Shared ResolvedModule)) := do
  let h ← get
  let directory := directoryOf file
  let (answer, resolutions, h) :=
    h.resolutions.getOrResolve (.new directory specifier) h (lookup view · directory specifier)
  set { h with resolutions }
  ExceptT.mk (pure answer)

/-- The modules that the references of a file stand for, up to the first failure. -/
def resolveAll (file : Path) : List Text → Request (List (Option (Shared ResolvedModule)))
  | [] => return []
  | specifier :: rest => do
    let found ← resolve view specifier file
    let others ← resolveAll file rest
    return found :: others

/-- The files of the project. -/
def scriptFiles (disk : Disk) : StateM Host (List Path) := do
  let h ← get
  match h.fileNames with
  | some names => return names
  | none =>
    let names := h.config.scriptFiles view disk
    set { h with fileNames := some names }
    return names

/-! ### Texts -/

/-- Runs a request to the snapshots. -/
def withSnapshots {α : Type} (run : SnapshotTable → α × SnapshotTable) : StateM Host α := do
  let h ← get
  let (answer, snapshots) := run h.snapshots
  set { h with snapshots }
  return answer

/-- The snapshot of a file, if the file is there. -/
def snapshot (path : Path) : Request (Option Nat) :=
  ExceptT.mk (withSnapshots (·.get view path))

/-- The text of a snapshot. -/
def text (id : Nat) : Request Text := ExceptT.mk (withSnapshots (·.text view id))

/-- Forgets the snapshot of a file; tells whether there was one. -/
def releaseSnapshot (path : Path) : StateM Host Bool := withSnapshots (·.dispose path)

/-- The lines of a file, unless it cannot be read. -/
def lineTable (path : Path) : StateM Host (Option LineTable) := do
  match ← (snapshot view path).run with
  | .ok (some id) =>
    match ← withSnapshots (·.lineTable view id) with
    | .ok table => return some table
    | .error _ => return none
  | _ => return none

end Host

end ImportLint
