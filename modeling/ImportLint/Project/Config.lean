import ImportLint.Failure
import ImportLint.Files.View
import ImportLint.Json.Decode
import ImportLint.Path.Normal
import ImportLint.Project.Patterns
import ImportLint.Project.Target

/-!
# Projects — the config

A project is described by a config file at its root.  What the file says is decoded first and
then checked: the language level must exist, and the patterns must be globs whose rules can be
compiled.

* `ProjectConfig.parse`: the project that a text describes.
* `ProjectConfig.load`: the project of a file.
* `ProjectConfig.acceptsExtension`: whether a file could belong to the project by its name.
-/

namespace ImportLint

/-- The name of a project's config file. -/
def configFileName : Text := "tsconfig.json".toList

/-- The options that guide resolution. -/
structure CompilerOptions where
  target : ScriptTarget := default
  /-- The ambient packages that are allowed; without a list all are. -/
  types : Option (List Text) := none
  /-- Where ambient packages lie; without a list, in the dependency folders. -/
  typeRoots : Option (List Path) := none
  allowJs : Bool := false
  noLib : Bool := false
  strict : Bool := false
deriving DecidableEq, Repr, Inhabited

structure ProjectConfig where
  configPath : Path
  rootDir : Path
  options : CompilerOptions
  /-- The files that are listed one by one. -/
  files : Option (List Path)
  /-- The patterns of further files; none if only files are listed. -/
  included : Option (List Text)
  excluded : List Text
deriving DecidableEq, Repr, Inhabited

/-! ### Decoding -/

/-- Compiler options as they are written. -/
structure WrittenOptions where
  target : Option Text := none
  types : Option (List Text) := none
  typeRoots : Option (List Text) := none
  allowJs : Option Bool := none
  noLib : Option Bool := none
  strict : Option Bool := none
deriving DecidableEq, Repr, Inhabited

/-- A config as it is written. -/
structure WrittenConfig where
  options : WrittenOptions := {}
  files : Option (List Text) := none
  included : Option (List Text) := none
  excluded : Option (List Text) := none
deriving DecidableEq, Repr, Inhabited

open Relaxed in
def expectStrings : Form → Decoded (Option (List Text)) :=
  expectOptional (expectList expectString)

open Relaxed in
def WrittenOptions.fields : List (RecordField WrittenOptions) := [
  ⟨"target".toList, fun v o => do return { o with target := ← expectOptional expectString v }⟩,
  ⟨"types".toList, fun v o => do return { o with types := ← expectStrings v }⟩,
  ⟨"typeRoots".toList, fun v o => do return { o with typeRoots := ← expectStrings v }⟩,
  ⟨"allowJs".toList, fun v o => do return { o with allowJs := ← expectOptional expectBool v }⟩,
  ⟨"noLib".toList, fun v o => do return { o with noLib := ← expectOptional expectBool v }⟩,
  ⟨"strict".toList, fun v o => do return { o with strict := ← expectOptional expectBool v }⟩]

open Relaxed in
def WrittenOptions.decode : Form → Decoded WrittenOptions :=
  expectRecord "RawCompilerOptions" WrittenOptions.fields {}

open Relaxed in
def WrittenConfig.fields : List (RecordField WrittenConfig) := [
  ⟨"compilerOptions".toList, fun v c => do
    return { c with options := ← WrittenOptions.decode v }⟩,
  ⟨"files".toList, fun v c => do return { c with files := ← expectStrings v }⟩,
  ⟨"include".toList, fun v c => do return { c with included := ← expectStrings v }⟩,
  ⟨"exclude".toList, fun v c => do return { c with excluded := ← expectStrings v }⟩]

/-- What a text says. -/
def WrittenConfig.ofText (text : Text) : Except ConfigFault WrittenConfig :=
  match Relaxed.parse text with
  | none => .error (.malformed (Relaxed.lackOf text))
  | some form =>
    (Relaxed.expectRecord "RawTsConfig" WrittenConfig.fields {} form).mapError .value

/-! ### Checking -/

namespace ProjectConfig

/-- A path of a config, seen from the project's root. -/
def fromRoot (root : Path) (raw : Text) : Path := (root.join ⟨raw⟩).normalize

/-- The patterns that count: without patterns and files, everything. -/
def effectivePatterns (files included : Option (List Text)) : Option (List Text) :=
  match included, files with
  | some patterns, _ => some patterns
  | none, some _ => none
  | none, none => some [everything]

/-- The language level that a config asks for. -/
def targetOf (raw : Option Text) : Except String ScriptTarget :=
  match raw with
  | none => .ok default
  | some raw =>
    match ScriptTarget.parse raw with
    | some target => .ok target
    | none => .error ("unknown compilerOptions.target '" ++ String.ofList raw ++ "'")

/-- Whether the patterns make a filter, as long as nothing is seen as a directory. -/
def checkPatterns (root : Path) (included : Option (List Text)) (excluded : List Text)
    (compiler : SetCompiler := .standard) : Except String Unit :=
  match included with
  | none => .ok ()
  | some included =>
    match SourceFilter.ofPatterns root (fun _ => false) included excluded compiler with
    | .ok _ => .ok ()
    | .error fault => .error fault.message

/-- The project that a decoded config describes. -/
def ofWritten (configPath : Path) (written : WrittenConfig)
    (compiler : SetCompiler := .standard) : Except LintError ProjectConfig :=
  let root := configPath.parent.getD (Path.ofString "/")
  let checked : Except String ProjectConfig := do
    let target ← targetOf written.options.target
    let included := effectivePatterns written.files written.included
    let excluded := written.excluded.getD defaultExcluded
    checkPatterns root included excluded compiler
    return {
      configPath
      rootDir := root
      options := {
        target
        types := written.options.types
        typeRoots := written.options.typeRoots.map (·.map (fromRoot root))
        allowJs := written.options.allowJs.getD false
        noLib := written.options.noLib.getD false
        strict := written.options.strict.getD false }
      files := written.files.map (·.map (fromRoot root))
      included
      excluded }
  checked.mapError (.configInvalid configPath)

/-- The project that a text describes, as if it were the file at `configPath`. -/
def parse (configPath : Path) (text : Text) (compiler : SetCompiler := .standard) :
    Except LintError ProjectConfig :=
  match WrittenConfig.ofText text with
  | .error fault => .error (.configParse configPath fault)
  | .ok written => ofWritten configPath written compiler

/-- The project that a file describes. -/
def load (view : FileView) (configPath : Path) (compiler : SetCompiler := .standard) :
    Except LintError ProjectConfig :=
  match view.read configPath with
  | .error cause => .error (.configRead configPath cause)
  | .ok text => parse configPath text compiler

end ProjectConfig

end ImportLint
