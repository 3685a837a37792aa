import ImportLint.Checking.Source
import ImportLint.Session.Engine

/-!
# Checking — the engine

The engine reports the syntax errors of a file and its references that lead nowhere.  Once in a
session it reports that the default library is missing.

* `ImportCheck.problems`: the faults of the references of a file, given what they resolve to.
* `importEngine`: the engine.
-/

namespace ImportLint

namespace ImportCheck

def syntaxErrorCode : Nat := 1005

def unknownModuleCode : Nat := 2307

def missingLibraryCode : Nat := 6053

def untypedModuleCode : Nat := 7016

/-- What one session's engine remembers. -/
structure State where
  /-- The default library has been looked for. -/
  libraryChecked : Bool := false
deriving DecidableEq, Repr, Inhabited

def missingLibrary (lib : Path) : Diagnostic where
  category := .error
  code := missingLibraryCode
  message := s!"File '{lib}' not found."

/-- Looks for the default library unless that has been done.  An answer counts, a failure does
not. -/
def checkLibrary (view : FileView) (h : Host) (s : State) :
    Except LintError (List Diagnostic) × State :=
  if s.libraryChecked then (.ok [], s)
  else match h.defaultLibrary with
    | none => (.ok [], ⟨true⟩)
    | some lib =>
      if h.config.options.noLib then (.ok [], ⟨true⟩)
      else match view.fileExists lib with
        | .error f => (.error f, s)
        | .ok true => (.ok [], ⟨true⟩)
        | .ok false => (.ok [missingLibrary lib], ⟨true⟩)

/-- A reference that has to lead somewhere: any but a module of the runtime. -/
def isChecked (r : Reference) : Bool :=
  Specifier.isPath r.specifier || !Specifier.isBuiltin r.specifier

/-- The fault of a reference, given what it resolves to. -/
def faultOf (options : CompilerOptions) (path : Path) (r : Reference)
    (found : Option ResolvedModule) : Option Diagnostic :=
  let name := String.ofList r.specifier
  match found with
  | none =>
    some (.located .error unknownModuleCode
      s!"Cannot find module '{name}' or its corresponding type declarations."
      path r.start r.length)
  | some m =>
    if options.strict && m.isExternal && (m.kind == .javaScript || m.kind == .jsx) then
      some (.located .error untypedModuleCode
        s!"Could not find a declaration file for module '{name}'." path r.start r.length)
    else none

/-- The faults of references, each with what it resolves to. -/
def problems (options : CompilerOptions) (path : Path)
    (found : List (Reference × Option (Shared ResolvedModule))) : List Diagnostic :=
  found.filterMap fun (r, m) => faultOf options path r (m.map Shared.value)

/-- The faults of a text. -/
def checkText (view : FileView) (path : Path) (text : Text) : Host.Request (List Diagnostic) := do
  match ModuleKind.ofPath path with
  | none => return []
  | some kind =>
    let facts := SourceFacts.ofText kind text
    let errors := facts.problems.map fun p =>
      Diagnostic.located .error syntaxErrorCode p.message path p.start p.length
    let references := facts.references.filter isChecked
    let found ← Host.resolveAll view path (references.map Reference.specifier)
    let options := (← get).config.options
    return errors ++ problems options path (references.zip found)

/-- The faults of a file. -/
def diagnostics (view : FileView) (file : Path) (h : Host) (s : State) :
    Except LintError (List Diagnostic) × Host × State :=
  let (opened, h) := (Host.snapshot view file).run.run h
  match opened with
  | .error f => (.error f, h, s)
  | .ok none => (.error (.fileRead file (.ofKind .notFound)), h, s)
  | .ok (some id) =>
    let path := (h.snapshots.snapshot id).path
    let (text, h) := (Host.text view id).run.run h
    match text with
    | .error f => (.error f, h, s)
    | .ok text =>
      let (library, s) := checkLibrary view h s
      match library with
      | .error f => (.error f, h, s)
      | .ok library =>
        let (found, h) := (checkText view path text).run.run h
        (found.map (library ++ ·), h, s)

end ImportCheck

/-- The engine that checks references. -/
def importEngine (bundledLibDir : Option Path) : Engine ImportCheck.State Unit where
  bundledLibDir
  create _ _ := (.ok {}, ())
  diagnostics view file := fun (h, s, _) =>
    let (answer, h, s) := ImportCheck.diagnostics view file h s
    (answer, h, s, ())
  release _ := fun (s, _) => (s, ())

end ImportLint
