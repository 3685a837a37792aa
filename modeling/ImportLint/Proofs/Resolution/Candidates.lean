import ImportLint.Resolution.Resolver

/-!
# Resolution — the candidates of a request

What a resolver may answer with is a list of paths, fixed by the request and by the manifests
of the directories it names.  Nothing in this module looks at a file.

* `Resolver.Request`: a reference as written in a directory, or a path.
* `Resolver.Request.candidates`: the paths that can be answered, the first ones first.
* `FileView.firstDecisive`: of some paths the first at which a file stands or the probe fails.
-/

namespace ImportLint

/-! ### The first decisive path -/

namespace FileView

variable (v : FileView)

/-- A search ends at this path: a file stands there, or the probe fails. -/
def decides (p : Path) : Bool :=
  match v.fileExists p with
  | .ok false => false
  | _ => true

/-- The first path that ends a search; its failure, if its probe fails. -/
def firstDecisive (ps : List Path) : Except LintError (Option Path) :=
  match ps.find? v.decides with
  | none => .ok none
  | some p => (v.fileExists p).map fun _ => some p

theorem firstDecisive_cons_of_absent {p : Path} (h : v.fileExists p = .ok false)
    (ps : List Path) : v.firstDecisive (p :: ps) = v.firstDecisive ps := by
  simp [firstDecisive, decides, h]

theorem firstDecisive_cons_of_present {p : Path} (h : v.fileExists p = .ok true)
    (ps : List Path) : v.firstDecisive (p :: ps) = .ok (some p) := by
  simp [firstDecisive, decides, h, Except.map]

theorem firstDecisive_cons_of_error {p : Path} {e : LintError} (h : v.fileExists p = .error e)
    (ps : List Path) : v.firstDecisive (p :: ps) = .error e := by
  simp [firstDecisive, decides, h, Except.map]

/-- A search goes on with the later paths only if nothing decides it among the first ones. -/
theorem firstDecisive_append (ps qs : List Path) :
    v.firstDecisive (ps ++ qs) =
      match v.firstDecisive ps with
      | .error e => .error e
      | .ok (some p) => .ok (some p)
      | .ok none => v.firstDecisive qs := by
  induction ps with
  | nil => rfl
  | cons p ps ih =>
      rw [List.cons_append]
      cases h : v.fileExists p with
      | error e => rw [firstDecisive_cons_of_error v h, firstDecisive_cons_of_error v h]
      | ok found =>
          cases found with
          | true => rw [firstDecisive_cons_of_present v h, firstDecisive_cons_of_present v h]
          | false =>
              rw [firstDecisive_cons_of_absent v h, firstDecisive_cons_of_absent v h, ih]

end FileView

/-! ### Candidates -/

namespace Resolver

/-- What is known of manifests, by directory. -/
abbrev Manifests := Path → Option Manifest

/-- The files that a phase takes a path for: the path itself if it is of the phase's kinds, and
the path with each of the phase's endings. -/
def spellings (phase : Phase) (p : Path) : List Path :=
  (if (ModuleKind.ofPath p).any phase.accepts then [p] else [])
    ++ phase.suffixes.map p.withSuffix

/-- What a phase takes a target for: the target, in the typed phase its stem if it names a
script, the entry of its manifest as a file and as a directory, and its index file. -/
def places (phase : Phase) (manifest : Option Manifest) (target : Path) : List Path :=
  let stem := if phase = .typed then (withoutScriptSuffix target).toList else []
  let entry := match manifest.bind phase.entry with
    | some entry =>
      let entry := (target.join entry).normalize
      [entry, entry.join index]
    | none => []
  target :: (stem ++ (entry ++ [target.join index]))

/-- The candidates of a target in a phase. -/
def targetCandidates (known : Manifests) (phase : Phase) (target : Path) : List Path :=
  (places phase (known target) target).flatMap (spellings phase)

/-- The candidates of a package: typed ones below all search roots, then typed ones below the
type roots if the package is allowed there, then scripts below all search roots. -/
def packageCandidates (known : Manifests) (specifier : Text) (roots : List Path)
    (ambient : Option AmbientTypes) : List Path :=
  let targets : List Path := roots.map fun root => root.join ⟨specifier⟩
  let types : List Path := match ambient with
    | some a =>
      if a.allows specifier then a.roots.map fun root => root.join ⟨Specifier.typesPath specifier⟩
      else []
    | none => []
  targets.flatMap (targetCandidates known .typed)
    ++ (types.flatMap (targetCandidates known .typed)
      ++ targets.flatMap (targetCandidates known .script))

/-- What a resolver is asked for. -/
inductive Request where
  /-- A reference as written in a directory, with the search roots and the type roots. -/
  | reference (dir : Path) (specifier : Text) (roots : List Path) (ambient : Option AmbientTypes)
  | target (path : Path) (isExternal : Bool)

namespace Request

/-- The candidates of a request, in order. -/
def candidates (known : Manifests) : Request → List Path
  | .target path _ => targetCandidates known .typed path ++ targetCandidates known .script path
  | .reference dir specifier roots ambient =>
    if specifier.isEmpty then []
    else if Specifier.isPath specifier then
      let target := (dir.join ⟨specifier⟩).normalize
      targetCandidates known .typed target ++ targetCandidates known .script target
    else if Text.startsWith Specifier.builtinScheme specifier then []
    else packageCandidates known specifier roots ambient

/-- Whether what is found lies outside of the project: packages do, files do not. -/
def isExternal : Request → Bool
  | .target _ isExternal => isExternal
  | .reference _ specifier _ _ => !Specifier.isPath specifier

/-- The request, put to a resolver. -/
def run (view : FileView) : Request → Lookup (Option ResolvedModule)
  | .target path isExternal => resolveTarget view path isExternal
  | .reference dir specifier roots ambient => resolve view dir specifier roots ambient

end Request

/-- A resolver after some requests. -/
def after (view : FileView) (requests : List Request) : Resolver :=
  requests.foldl (fun r q => ((q.run view).run r).2) {}

end Resolver

/-- A file with its kind; what has no kind of its own counts as a script. -/
def hitAt (p : Path) : Hit := (p, (ModuleKind.ofPath p).getD .javaScript)

/-- The module that a file is. -/
def moduleAt (isExternal : Bool) (p : Path) : ResolvedModule :=
  .new p ((ModuleKind.ofPath p).getD .javaScript) isExternal

end ImportLint
