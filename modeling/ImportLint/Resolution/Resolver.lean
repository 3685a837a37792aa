import ImportLint.ModuleKind
import ImportLint.Package.Manifest
import ImportLint.Package.Specifier
import ImportLint.Table

/-!
# Resolution

From a module reference to the file it stands for.

A target is looked up in two phases.  The typed phase tries sources and declarations, the
script phase scripts and JSON; a script counts only if the typed phase finds nothing anywhere.
Each phase tries the target itself, then the entry that the target's manifest names, then an
index file.

* `Resolver.resolve`: a reference as written in a directory.
* `Resolver.resolveTarget`: a path.

A resolver reads the manifest of a directory once and keeps what it found.
-/

namespace ImportLint

/-- The file that a module reference stands for. -/
structure ResolvedModule where
  path : Path
  kind : ModuleKind
  /-- Found through the search paths or the type roots. -/
  isExternal : Bool
  /-- The package that owns an external file. -/
  packageName : Option Text
deriving DecidableEq, Repr, Inhabited

def ResolvedModule.new (path : Path) (kind : ModuleKind) (isExternal : Bool) : ResolvedModule where
  path
  kind
  isExternal
  packageName := if isExternal then packageOfPath path else none

/-- The type roots, and the packages that may be looked up in them. -/
structure AmbientTypes where
  roots : List Path := []
  /-- Without a list every package is allowed. -/
  allow : Option (List Text) := none
deriving DecidableEq, Repr, Inhabited

/-- Whether a reference may be looked up in the type roots. -/
def AmbientTypes.allows (a : AmbientTypes) (specifier : Text) : Bool :=
  match a.allow with
  | none => true
  | some names => names.contains (Specifier.split specifier).1

inductive Phase where
  | typed
  | script
deriving DecidableEq, Repr

namespace Phase

/-- The endings that a phase tries, in order. -/
def suffixes : Phase → List Text
  | .typed => [".ts".toList, ".tsx".toList, ".d.ts".toList]
  | .script => [".js".toList, ".jsx".toList, ".json".toList]

/-- Whether a phase takes files of a kind. -/
def accepts (p : Phase) (k : ModuleKind) : Bool :=
  match p with
  | .typed => k.isTyped
  | .script => !k.isTyped

/-- The entry of a manifest that a phase looks at. -/
def entry (p : Phase) (m : Manifest) : Option Path :=
  match p with
  | .typed => m.types
  | .script => m.main

end Phase

/-- A file found, with its kind. -/
abbrev Hit := Path × ModuleKind

/-- `a/b.js` as `a/b`, so that a reference to a script can land on its source. -/
def withoutScriptSuffix (p : Path) : Option Path := do
  let name ← p.fileName
  let stem ← (Text.stripEnd ".js".toList name).orElse fun _ => Text.stripEnd ".jsx".toList name
  return p.withFileName stem

/-- What a resolver remembers: the manifest of each directory it looked at, or that there was
none. -/
structure Resolver where
  manifests : Table (List Component) (Option Manifest) := {}

namespace Resolver

instance : Inhabited Resolver := ⟨{}⟩

/-- A look-up: it can fail, and what has been remembered stays also when it does. -/
abbrev Lookup := ExceptT LintError (StateM Resolver)

variable (view : FileView)

/-- The manifest of a directory, read once. -/
def manifest (dir : Path) : Lookup (Option Manifest) := do
  let r ← get
  match r.manifests.get? dir.components with
  | some known => return known
  | none =>
    let loaded := Manifest.load view dir
    set { r with manifests := r.manifests.insert dir.components loaded }
    return loaded

/-- The first of some candidates at which a file stands. -/
def firstExisting : List Hit → Except LintError (Option Hit)
  | [] => .ok none
  | hit :: rest => do
    if ← view.fileExists hit.1 then return some hit else firstExisting rest

/-- What a phase tries for a path: the path itself if it is of the phase's kinds, and the path
with each of the phase's endings. -/
def candidates (phase : Phase) (p : Path) : List Hit :=
  let itself := match ModuleKind.ofPath p with
    | some kind => if phase.accepts kind then [(p, kind)] else []
    | none => []
  itself ++ phase.suffixes.map fun suffix =>
    let q := p.withSuffix suffix
    (q, (ModuleKind.ofPath q).getD .javaScript)

def tryPath (phase : Phase) (p : Path) : Lookup (Option Hit) :=
  ExceptT.mk (pure (firstExisting view (candidates phase p)))

def index : Path := Path.ofString "index"

/-- One phase for one target. -/
def lookup (phase : Phase) (target : Path) : Lookup (Option Hit) := do
  if let some hit ← tryPath view phase target then return some hit
  if phase = .typed then
    if let some stem := withoutScriptSuffix target then
      if let some hit ← tryPath view phase stem then return some hit
  if let some m ← manifest view target then
    if let some entry := phase.entry m then
      let entry := (target.join entry).normalize
      if let some hit ← tryPath view phase entry then return some hit
      if let some hit ← tryPath view phase (entry.join index) then return some hit
  tryPath view phase (target.join index)

/-- One phase for several targets, in order. -/
def lookupFirst (phase : Phase) : List Path → Lookup (Option Hit)
  | [] => return none
  | target :: rest => do
    match ← lookup view phase target with
    | some hit => return some hit
    | none => lookupFirst phase rest

/-- Both phases for a path. -/
def resolveTarget (target : Path) (isExternal : Bool) : Lookup (Option ResolvedModule) := do
  if let some (path, kind) ← lookup view .typed target then
    return some (.new path kind isExternal)
  if let some (path, kind) ← lookup view .script target then
    return some (.new path kind isExternal)
  return none

/-- A package reference: the typed phase over the search roots and the type roots, then the
script phase over the search roots. -/
def resolvePackage (specifier : Text) (roots : List Path) (ambient : Option AmbientTypes) :
    Lookup (Option ResolvedModule) := do
  let targets := roots.map fun root => root.join ⟨specifier⟩
  if let some (path, kind) ← lookupFirst view .typed targets then
    return some (.new path kind true)
  if let some ambient := ambient then
    if ambient.allows specifier then
      let types := Specifier.typesPath specifier
      if let some (path, kind) ←
          lookupFirst view .typed (ambient.roots.map fun root => root.join ⟨types⟩) then
        return some (.new path kind true)
  if let some (path, kind) ← lookupFirst view .script targets then
    return some (.new path kind true)
  return none

/-- A reference as written in a file of a directory.  Modules of the runtime and the empty
reference stand for no file. -/
def resolve (dir : Path) (specifier : Text) (roots : List Path)
    (ambient : Option AmbientTypes) : Lookup (Option ResolvedModule) :=
  if specifier.isEmpty then return none
  else if Specifier.isPath specifier then
    resolveTarget view (dir.join ⟨specifier⟩).normalize false
  else if Text.startsWith Specifier.builtinScheme specifier then return none
  else resolvePackage view specifier roots ambient

end Resolver

end ImportLint
