import ImportLint.Session.Registry

/-!
# Linting — one file

The nearest project config decides which session checks a file.  What the session finds is
turned into reports with lines and columns; what fails becomes a report on the file.

* `Linter.lintFile`: the reports of a file.
* `Linter.lintFiles`: those of several files, in order.
-/

namespace ImportLint

/-- A registry of sessions, and what their engines share. -/
structure Linter (σ ω : Type) where
  registry : Registry σ
  shared : ω

/-- The code of reports that come from no engine. -/
def internalCode : Nat := 0

namespace Linter

variable {σ ω : Type} (e : Engine σ ω)

def new (options : LintOptions) (shared : ω) : Linter σ ω := ⟨.new options, shared⟩

/-- The report of one fault, with lines from the host's snapshots. -/
def reportOf (view : FileView) (node : Path) (d : Diagnostic) : StateM Host Report := do
  match d.span? with
  | none => return d.toReport node fun _ => none
  | some (file, _, _) =>
    let table ← Host.lineTable view file
    return d.toReport node fun _ => table

/-- The reports of some faults. -/
def reportsOf (view : FileView) (node : Path) : List Diagnostic → StateM Host (List Report)
  | [] => return []
  | d :: ds => do
    let report ← reportOf view node d
    let reports ← reportsOf view node ds
    return report :: reports

/-- The session of a number, changed. -/
def setSession (l : Linter σ ω) (id : Nat) (s : Session σ) (shared : ω) : Linter σ ω where
  registry := { l.registry with sessions := l.registry.sessions.setIfInBounds id s }
  shared

/-- The reports of a file that belongs to a project, without those that are ignored. -/
def check (view : FileView) (file configPath projectRoot : Path) (l : Linter σ ω) :
    Except LintError (List Report) × Linter σ ω :=
  let (id, registry, shared) := l.registry.session e view configPath projectRoot l.shared
  let l : Linter σ ω := ⟨registry, shared⟩
  match id with
  | .error f => (.error f, l)
  | .ok id =>
    match registry.sessions[id]? with
    | none => (.ok [], l)
    | some s =>
      let (found, s, shared) := s.diagnostics e view file shared
      match found with
      | .error f => (.error f, l.setSession id s shared)
      | .ok found =>
        let counted := found.value.filter fun d => !registry.options.isIgnored d.code
        let (reports, host) := (reportsOf view file counted).run s.host
        (.ok reports, l.setSession id { s with host } shared)

/-- The reports of a file.  A file outside of all projects has none. -/
def lintFile (view : FileView) (file : Path) (l : Linter σ ω) : List Report × Linter σ ω :=
  let file := file.normalize
  match file.parent with
  | none => ([], l)
  | some dir =>
    match findProjectConfig view dir with
    | none => ([], l)
    | some configPath =>
      match l.check e view file configPath (configPath.parent.getD dir) with
      | (.ok reports, l) => (reports, l)
      | (.error f, l) => ([Report.onNode file .error internalCode f.message], l)

/-- The reports of several files, in order. -/
def lintFiles (view : FileView) : List Path → Linter σ ω → List Report × Linter σ ω
  | [], l => ([], l)
  | file :: files, l =>
    let (reports, l) := l.lintFile e view file
    let (others, l) := lintFiles view files l
    (reports ++ others, l)

end Linter

end ImportLint
