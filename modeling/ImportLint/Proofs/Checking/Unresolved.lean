import ImportLint.Proofs.Session.Failures
import ImportLint.Proofs.Session.Operations

/-!
# Checking — the references that lead nowhere

While the files stay as they are and none of them fails, a reference leads nowhere if no file
stands at any of its candidates.  Two kinds of references have no candidates although they name
no module of the runtime: the empty one, and those under the scheme of the runtime.

* `Host.candidates`: the files that a reference can lead to, if it is looked up at all.
* `ImportCheck.collected`: the references of a file.
* `Host.outcome_of_calm`: what a reference leads to where nothing fails.
* `ImportCheck.unknownModules_eq`: whatever a session was asked before, a file's references that
  are reported as unknown are those that lead nowhere.
* `ImportCheck.reported_beside_files`: references that are not looked up are reported, files or
  not.
-/

namespace ImportLint

/-! ### References to the runtime -/

namespace Specifier

/-- No file is looked for: the reference is empty, or names a module of the runtime. -/
def isUnprobed (s : Text) : Bool := s.isEmpty || Text.startsWith builtinScheme s

/-- A reference to a file names no module of the runtime. -/
theorem isBuiltin_of_isPath {s : Text} (h : isPath s = true) : isBuiltin s = false := by
  have hnames : ∀ name ∈ builtins, name.head? ≠ some '.' ∧ name ≠ [] := by decide
  cases s with
  | nil => cases h
  | cons c cs =>
      have hc : c = '.' ∨ c = '/' := by simpa [isPath] using h
      rcases hc with rfl | rfl
      · have hname : ∃ rest, (split ('.' :: cs)).1 = '.' :: rest := by
          simp only [split, Text.cutAt]
          cases Text.cutAt '/' cs with
          | none => exact ⟨cs, rfl⟩
          | some parts => exact ⟨parts.1, rfl⟩
        obtain ⟨rest, hname⟩ := hname
        change builtins.contains (split ('.' :: cs)).1 = false
        rw [hname]
        refine Bool.eq_false_iff.mpr fun hm => ?_
        exact (hnames _ (by simpa using hm)).1 rfl
      · change builtins.contains [] = false
        decide

theorem isUnprobed_of_isPath {s : Text} (h : isPath s = true) : isUnprobed s = false := by
  cases s with
  | nil => cases h
  | cons c cs =>
      have hc : c = '.' ∨ c = '/' := by simpa [isPath] using h
      rcases hc with rfl | rfl
      · rfl
      · rfl

end Specifier

/-! ### Where nothing fails -/

namespace Host

/-- The files that a reference in a directory can lead to: typed ones before scripts, for a path
at its target, for a package below the directories to search and, typed ones, below the type
roots if the package is allowed there. -/
def candidates (view : FileView) (h : Host) (directory : Path) (specifier : Text) : List Path :=
  let known := Manifest.load view
  if Specifier.isPath specifier then
    let target := (directory.join ⟨specifier⟩).normalize
    Resolver.targetCandidates known .typed target
      ++ Resolver.targetCandidates known .script target
  else
    Resolver.packageCandidates known specifier (h.searchPaths.build directory) (some h.ambient)

variable {view : FileView}

theorem candidates_question (h : Host) (directory : Path) (specifier : Text) :
    (h.question directory specifier).candidates (Manifest.load view) =
      if Specifier.isUnprobed specifier then [] else h.candidates view directory specifier := by
  unfold question candidates
  by_cases hp : Specifier.isPath specifier = true
  · simp [hp, Resolver.Request.candidates, not_isEmpty_of_isPath hp,
      Specifier.isUnprobed_of_isPath hp]
  · by_cases he : specifier.isEmpty = true
    · simp [hp, he, Resolver.Request.candidates, Specifier.isUnprobed]
    · simp [hp, he, Resolver.Request.candidates, Specifier.isUnprobed]

/-- The module that a reference stands for: the first of its candidates that is a file. -/
def destination (view : FileView) (h : Host) (directory : Path) (specifier : Text) :
    Option ResolvedModule :=
  let q := h.question directory specifier
  ((q.candidates (Manifest.load view)).find? view.isFile).map (moduleAt q.isExternal)

/-- **Where nothing fails**, a reference stands for the first of its candidates that is a
file. -/
theorem outcome_of_calm (hcalm : view.Calm) (h : Host) (directory : Path) (specifier : Text) :
    outcome view h directory specifier = .ok (h.destination view directory specifier) := by
  rw [outcome, hcalm.firstDecisive]
  rfl

theorem isNone_destination (h : Host) (directory : Path) (specifier : Text) :
    (h.destination view directory specifier).isNone =
      (Specifier.isUnprobed specifier ||
        !(h.candidates view directory specifier).any view.isFile) := by
  rw [destination, candidates_question]
  cases Specifier.isUnprobed specifier with
  | true => rfl
  | false =>
      rw [Option.isNone_map, if_neg Bool.false_ne_true, ← Option.not_isSome, List.isSome_find?]
      rfl

end Host

namespace ImportCheck

variable {view : FileView}

/-- The references of a file. -/
def collected (path : Path) (text : Text) : List Reference :=
  match ModuleKind.ofPath path with
  | none => []
  | some kind => (SourceFacts.ofText kind text).references

/-- A reference leads nowhere: it names no module of the runtime, and it is not looked up or no
file stands at any of its candidates. -/
def isUnknown (view : FileView) (h : Host) (path : Path) (r : Reference) : Bool :=
  !Specifier.isBuiltin r.specifier &&
    (Specifier.isUnprobed r.specifier ||
      !(h.candidates view (Host.directoryOf path) r.specifier).any view.isFile)

/-- The fault of a reference that leads nowhere. -/
def unknownModule (path : Path) (r : Reference) : Diagnostic :=
  .located .error unknownModuleCode
    s!"Cannot find module '{String.ofList r.specifier}' or its corresponding type declarations."
    path r.start r.length

/-- The references that a file's faults report as unknown. -/
def unknownModules (ds : List Diagnostic) : List Diagnostic :=
  ds.filter fun d => d.code == unknownModuleCode

theorem isChecked_eq (r : Reference) : isChecked r = !Specifier.isBuiltin r.specifier := by
  unfold isChecked
  cases hp : Specifier.isPath r.specifier with
  | true => rw [Specifier.isBuiltin_of_isPath hp]; rfl
  | false => rfl

/-- Of the faults that a reference can have, this one says that it leads nowhere. -/
theorem faultOf_filter (options : CompilerOptions) (path : Path) (r : Reference)
    (found : Option ResolvedModule) :
    (faultOf options path r found).filter (fun d => d.code == unknownModuleCode) =
      if found.isNone then some (unknownModule path r) else none := by
  cases found with
  | none => rfl
  | some m =>
      simp only [faultOf]
      split
      · rfl
      · rfl

/-- The unknown modules among the faults of references. -/
theorem unknownModules_faults (options : CompilerOptions) (path : Path)
    (find : Text → Option ResolvedModule) (references : List Reference) :
    unknownModules ((references.zip (references.map fun r => find r.specifier)).filterMap
        fun (r, m) => faultOf options path r m) =
      (references.filter fun r => (find r.specifier).isNone).map (unknownModule path) := by
  have hzip : references.zip (references.map fun r => find r.specifier) =
      references.map fun r => (r, find r.specifier) := by
    have h := List.zip_map' (f := id) (g := fun r : Reference => find r.specifier) (l := references)
    simpa using h
  rw [unknownModules, List.filter_filterMap, hzip, List.filterMap_map]
  simp only [Function.comp_def, faultOf_filter]
  rw [← List.filterMap_filter, ← List.filterMap_eq_map]
  rfl

/-! ### One call -/

/-- Where nothing fails, looking for the library does not. -/
theorem checkLibrary_isOk (hcalm : view.Calm) (h : Host) (s : State) :
    ∃ library, (checkLibrary view h s).1 = .ok library := by
  unfold checkLibrary
  split
  · exact ⟨_, rfl⟩
  · split
    · exact ⟨_, rfl⟩
    · next lib _ =>
      rw [hcalm.fileExists lib]
      split
      · exact ⟨_, rfl⟩
      · cases view.isFile lib <;> exact ⟨_, rfl⟩

/-- **Where nothing fails**, a text is checked, and the references that are reported as unknown
are those that lead nowhere, in the order in which they are written. -/
theorem verdictOfText_of_calm (hcalm : view.Calm) (origin : Host) (path : Path) (text : Text) :
    ∃ ds, verdictOfText view origin path text = .ok ds ∧
      unknownModules ds =
        ((collected path text).filter (isUnknown view origin path)).map (unknownModule path) := by
  unfold verdictOfText collected
  cases ModuleKind.ofPath path with
  | none => exact ⟨[], rfl, rfl⟩
  | some kind =>
      simp only
      let facts := SourceFacts.ofText kind text
      let find := origin.destination view (Host.directoryOf path)
      have hoc : (fun specifier => Host.outcome view origin (Host.directoryOf path) specifier) =
          fun specifier => pure (find specifier) :=
        funext (Host.outcome_of_calm hcalm origin (Host.directoryOf path))
      rw [hoc, List.mapM_pure]
      refine ⟨_, rfl, ?_⟩
      have herrors : unknownModules (facts.problems.map fun p =>
          Diagnostic.located .error syntaxErrorCode p.message path p.start p.length) = [] := by
        simp [unknownModules, Diagnostic.located, syntaxErrorCode, unknownModuleCode]
      have hunknown : ∀ r : Reference,
          ((find r.specifier).isNone && isChecked r) = isUnknown view origin path r := by
        intro r
        rw [isChecked_eq, isUnknown, ← Host.isNone_destination, Bool.and_comm]
      rw [unknownModules, List.filter_append]
      change unknownModules _ ++ unknownModules _ = _
      rw [herrors, List.nil_append, List.map_map]
      refine (unknownModules_faults origin.config.options path find _).trans ?_
      rw [List.filter_filter]
      simp only [hunknown]

/-- The report of a missing library is of another kind. -/
theorem unknownModules_withoutLibrary (ds : List Diagnostic) :
    unknownModules (withoutLibrary ds) = unknownModules ds := by
  rw [unknownModules, withoutLibrary, List.filter_filter, unknownModules]
  refine List.filter_congr fun d _ => ?_
  cases h : d.code == unknownModuleCode with
  | false => rfl
  | true => rw [eq_of_beq h]; rfl

/-- **The references reported as unknown are those that lead nowhere.**  Let nothing fail and the
files stay as they are, and let a session be asked anything.  Then its engine finds the faults of
any file that can be read, and those with the code of unknown modules are, one for each and in
the order in which they are written, the file's references that name no module of the runtime and
for which there is no file at any candidate. -/
theorem unknownModules_eq {view : FileView} (hc : view.Coherent) (hcalm : view.Calm)
    (config : ProjectConfig) (projectRoot : Path) (globals : List Path) (libDir : Option Path)
    (configPath : Path) (bundled : Option Path) (run : List Session.Operation) {file : Path}
    {text : Text} (hfile : view.isFile file.normalize = true)
    (hread : view.read file.normalize = .ok text) :
    let new : Session.Checking :=
      { configPath, host := .new view config projectRoot globals libDir, engine := {} }
    let now := run.foldl (fun s op => (s.operate (importEngine bundled) view () op).1) new
    ∃ ds, (diagnostics view file now.host now.engine).1 = .ok ds ∧
      unknownModules ds =
        ((collected file.normalize text).filter (isUnknown view new.host file.normalize)).map
          (unknownModule file.normalize) := by
  intro new now
  have hnow : Faithful view new.host now.host now.engine :=
    List.foldlRecOn
      (motive := fun s : Session.Checking => Faithful view new.host s.host s.engine) run _
      (faithful_new view config projectRoot globals libDir)
      fun s hs op _ => hs.operate hc bundled op
  obtain ⟨library, hlibrary⟩ := checkLibrary_isOk hcalm new.host {}
  obtain ⟨found, hfound, hunknown⟩ :=
    verdictOfText_of_calm hcalm new.host file.normalize text
  have hsource : sourceOf file (SnapshotTable.lookUp view file.normalize none).1 =
      .ok (file.normalize, text) := by
    simp only [SnapshotTable.lookUp, SnapshotTable.readUp, hcalm.fileExists, hfile, hread]
    rfl
  have hverdict : verdict view new.host file = .ok found := by
    simp only [verdict, hsource, hlibrary, hfound]
  have hcall := (diagnostics_verdict hc hnow file).1
  rw [hverdict] at hcall
  cases hd : (diagnostics view file now.host now.engine).1 with
  | error f =>
      rw [hd] at hcall
      cases hcall
  | ok ds =>
      rw [hd] at hcall
      cases hcall
      exact ⟨ds, rfl, (unknownModules_withoutLibrary ds).symm.trans hunknown⟩

/-- A file with two references, one of which leads to a file. -/
def halfKnown : Text := "import './b'; import './c';".toList

def halfKnownTree : MemoryTree :=
  .ofFiles [(.ofString "/p/a.ts", halfKnown), (.ofString "/p/b.ts", [])]

/-- The other one is reported, also after the file has been checked and forgotten. -/
theorem unknownModules_halfKnown :
    let view := halfKnownTree.view
    let file := Path.ofString "/p/a.ts"
    let new : Session.Checking :=
      { configPath := .ofString "/p/tsconfig.json"
        host := .new view default (.ofString "/p") [] none
        engine := {} }
    let now := [Session.Operation.diagnostics file, .host (.references (.one "./c".toList file)),
      .release file].foldl (fun s op => (s.operate (importEngine none) view () op).1) new
    (view.Coherent ∧ view.Calm ∧ view.isFile file.normalize = true ∧
        view.read file.normalize = .ok halfKnown) ∧
      ∃ ds, (diagnostics view file now.host now.engine).1 = .ok ds ∧
        unknownModules ds = [unknownModule file ⟨"./c".toList, 21, 5⟩] := by
  intro view file new now
  have hcalm : view.Calm := MemoryTree.calm_sound halfKnownTree.files
  have hread : view.read file.normalize = .ok halfKnown := rfl
  refine ⟨⟨halfKnownTree.coherent, hcalm, rfl, hread⟩, ?_⟩
  obtain ⟨ds, hds, hunknown⟩ := unknownModules_eq halfKnownTree.coherent hcalm default
    (.ofString "/p") [] none (.ofString "/p/tsconfig.json") none
    [.diagnostics file, .host (.references (.one "./c".toList file)), .release file]
    (show view.isFile file.normalize = true from rfl) hread
  refine ⟨ds, hds, hunknown.trans ?_⟩
  decide +kernel

/-- Two references that are not looked up, with files at their candidates. -/
def passedOver : Text := "import ''; import 'node:nope';".toList

def passedOverTree : MemoryTree :=
  .ofFiles [(.ofString "/p/a.ts", passedOver), (.ofString "/p/node_modules/index.ts", []),
    (.ofString "/p/node_modules/node:nope.ts", [])]

/-- **References that are not looked up are reported**, also where a candidate is a file. -/
theorem reported_beside_files :
    let view := passedOverTree.view
    let file := Path.ofString "/p/a.ts"
    let host := Host.new view default (.ofString "/p") [] none
    view.Calm ∧
      (∀ r ∈ collected file passedOver, Specifier.isBuiltin r.specifier = false ∧
        (host.candidates view (Host.directoryOf file) r.specifier).any view.isFile = true) ∧
      ∃ ds, (diagnostics view file host {}).1 = .ok ds ∧
        unknownModules ds = (collected file passedOver).map (unknownModule file) ∧
        (unknownModules ds).length = 2 := by
  intro view file host
  have hds : (diagnostics view file host {}).1 =
      .ok [unknownModule file ⟨[], 7, 2⟩, unknownModule file ⟨"node:nope".toList, 18, 11⟩] :=
    eq_ok_of_toOption (by decide +kernel)
  have hcollected : collected file passedOver =
      [⟨[], 7, 2⟩, ⟨"node:nope".toList, 18, 11⟩] := by decide +kernel
  rw [hcollected]
  exact ⟨MemoryTree.calm_sound passedOverTree.files, by decide +kernel, _, hds, rfl, rfl⟩

end ImportCheck

end ImportLint
