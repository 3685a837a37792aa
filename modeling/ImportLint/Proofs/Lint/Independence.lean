import ImportLint.Proofs.Checking.Verdict
import ImportLint.Proofs.Lint.Visits
import ImportLint.Proofs.Path.Parents

/-!
# Linting — reports do not depend on what was linted before

While the files and the options stay as they are, the reports of a visit can be told from them,
whatever has been visited and released before.  The report of a missing library alone is left
out: the first session that looks for it makes it once.

* `Session.Honest`: what a session remembers is what the files are.
* `Linter.reportsFor`: the reports of a file, told from the files alone.
* `projectOf_congr`: files with one config have one project.
* `Linter.Honest`: every session is one of its config, and honest; visits and releases keep it.
* `lintFile_honest`: a visit makes the reports that can be told from the files.
* `reports_independent`: so it makes the same reports in all runs.
-/

namespace ImportLint

open ImportCheck (verdict withoutLibrary)

/-! ### Sessions -/

namespace Session

variable {view : FileView} {origin : Host} {s : Checking}

/-- What a session remembers is what the files are. -/
structure Honest (view : FileView) (origin : Host) (s : Checking) : Prop where
  faithful : ImportCheck.Faithful view origin s.host s.engine
  holds : s.Holds fun p kept text =>
    verdict view origin p = .ok (withoutLibrary kept.value) ∧
      (SnapshotTable.lookUp view p none).1 = .ok (some text)

/-- **An honest session answers with the verdict**, and stays honest. -/
theorem Honest.diagnostics (hc : view.Coherent) (hs : s.Honest view origin)
    (bundled : Option Path) (file : Path) :
    let run := s.diagnostics (importEngine bundled) view file ()
    (run.1.map fun kept => withoutLibrary kept.value) = verdict view origin file.normalize ∧
      run.2.1.Honest view origin ∧
      ∀ kept, run.1 = .ok kept → run.2.1.found.get? file.normalize.components = some kept := by
  obtain ⟨hverdict, hfaithful⟩ := ImportCheck.diagnostics_verdict hc hs.faithful file.normalize
  obtain ⟨hholds, hkept⟩ := hs.holds.diagnostics bundled view file fun text faults h => by
    obtain ⟨-, ⟨path, hsource⟩, hfaults⟩ := of_checked h
    refine ⟨by rw [← hverdict, hfaults]; rfl, ?_⟩
    rw [ImportCheck.source_eq view _ hs.faithful.wellFormed,
      hs.faithful.reliable.fst_fetch hs.faithful.wellFormed, Path.normalize_normalize] at hsource
    unfold ImportCheck.sourceOf at hsource
    split at hsource
    · cases hsource
    · cases hsource
    · next e => cases hsource; exact e
  refine and_assoc.mp ⟨?_, hkept⟩
  revert hholds
  obtain ⟨known, hk, hrun⟩ | ⟨-, ⟨f, hf, hrun⟩ | ⟨fresh, hf, hrun⟩⟩ :=
    diagnostics_cases bundled view file s
  · rw [hrun]
    obtain ⟨text, -, -, hknown, -⟩ := hs.holds.found file known hk
    exact fun hholds => ⟨hknown.symm, hs.faithful, hholds⟩
  · rw [hrun, ← hverdict, hf]
    exact fun hholds => ⟨rfl, hfaithful, hholds⟩
  · rw [hrun, ← hverdict, hf]
    exact fun hholds => ⟨rfl, hfaithful, hholds⟩

/-- **A release** keeps a session honest. -/
theorem Honest.release (hs : s.Honest view origin) (bundled : Option Path) (file : Path) :
    (s.release (importEngine bundled) file ()).2.1.Honest view origin where
  faithful := hs.faithful.withSnapshots (hs.faithful.wellFormed.dispose file.normalize).2.1
    (hs.faithful.reliable.dispose hs.faithful.wellFormed _)
  holds := hs.holds.release bundled file

/-- Lines that are noted keep a session honest. -/
theorem Honest.note (hs : s.Honest view origin) {t : SnapshotTable}
    (ht : s.host.snapshots.Notes t) :
    Honest view origin { s with host := { s.host with snapshots := t } } where
  faithful := hs.faithful.withSnapshots (ht.wellFormed hs.faithful.wellFormed)
    (hs.faithful.reliable.of_known_eq (SnapshotTable.known_eq ht.same))
  holds := hs.holds.note ht

theorem configPath_diagnostics (bundled : Option Path) (view : FileView) (file : Path)
    (s : Checking) :
    (s.diagnostics (importEngine bundled) view file ()).2.1.configPath = s.configPath :=
  configPath_operate (e := importEngine bundled) (.diagnostics file)

end Session

namespace Linter

variable {bundled : Option Path} {view : FileView} {options : LintOptions} {l : Checking}

/-! ### Projects -/

/-- The config of a project is in its root. -/
theorem exists_dir_of_projectOf {file : Path} {project : Path × Path}
    (hp : projectOf view file = some project) :
    ∃ dir : Path, project.1 = dir.join ⟨configFileName⟩ ∧ project.2.Same dir := by
  obtain ⟨start, -, hfind⟩ := Option.bind_eq_some_iff.mp hp
  obtain ⟨config, hconfig, rfl⟩ := Option.map_eq_some_iff.mp hfind
  obtain ⟨dir, -, rfl⟩ := List.mem_map.mp (List.mem_of_find?_eq_some hconfig)
  obtain ⟨up, hup, hsame⟩ :=
    Path.parent_join_name dir (by decide : Path.IsNamed (.name configFileName))
  exact ⟨dir, rfl, by rw [hup]; exact hsame⟩

/-- **Files with one config have one project.** -/
theorem projectOf_congr {file file' : Path} {project project' : Path × Path}
    (hp : projectOf view file = some project) (hp' : projectOf view file' = some project')
    (h : project.1.normalize.components = project'.1.normalize.components) :
    project.1.normalize = project'.1.normalize ∧ project.2.normalize = project'.2.normalize := by
  obtain ⟨dir, hconfig, hroot⟩ := exists_dir_of_projectOf hp
  obtain ⟨dir', hconfig', hroot'⟩ := exists_dir_of_projectOf hp'
  refine ⟨Path.Same.eq_of_normalize h, ?_⟩
  rw [Path.normalize_eq_of_same hroot, Path.normalize_eq_of_same hroot']
  rw [hconfig, hconfig'] at h
  exact Path.normalize_eq_of_join_name (by decide) h

/-- A host without memories for a project. -/
def originOf (bundled : Option Path) (view : FileView) (options : LintOptions)
    (project : Path × Path) : Except LintError Host :=
  (ProjectConfig.load view project.1.normalize).map fun config =>
    .new view config project.2.normalize options.globalSearchPaths (options.libDir.or bundled)

/-! ### Reports, told from the files -/

/-- The reports of a file, told from the files alone, but for the report of a missing library. -/
def reportsFor (bundled : Option Path) (view : FileView) (options : LintOptions) (file : Path) :
    List Report :=
  let node := file.normalize
  match projectOf view file with
  | none => []
  | some project =>
    match originOf bundled view options project with
    | .error f => [.onNode node .error internalCode f.message]
    | .ok origin =>
      match verdict view origin node, (SnapshotTable.lookUp view node none).1 with
      | .error f, _ => [.onNode node .error internalCode f.message]
      | .ok ds, .ok (some text) =>
        (counted options ds).map fun d => d.toReport node fun _ => some (.ofText text)
      | _, _ => []

/-- Reports without that of a missing library. -/
def withoutLibraryReport (rs : List Report) : List Report :=
  rs.filter fun r => r.code != ImportCheck.missingLibraryCode

/-- The report of a missing library is that of its diagnostic. -/
theorem withoutLibraryReport_map (options : LintOptions) (ds : List Diagnostic) (node : Path)
    (table : Path → Option LineTable) :
    withoutLibraryReport ((counted options ds).map fun d => d.toReport node table) =
      (counted options (withoutLibrary ds)).map fun d => d.toReport node table := by
  rw [withoutLibraryReport, List.filter_map, withoutLibrary, counted, counted, List.filter_filter,
    List.filter_filter]
  congr 2
  funext d
  rw [Function.comp_apply, (d.says_toReport node table).2.1, Bool.and_comm]

/-! ### Honest linters -/

/-- A session is one of a project that files belong to, and honest. -/
def IsHonest (bundled : Option Path) (view : FileView) (options : LintOptions)
    (s : Session.Checking) : Prop :=
  ∃ file project origin, projectOf view file = some project ∧
    s.configPath = project.1.normalize ∧ originOf bundled view options project = .ok origin ∧
      s.Honest view origin

/-- What a linter remembers is what the files are. -/
structure Honest (bundled : Option Path) (view : FileView) (options : LintOptions)
    (l : Checking) : Prop where
  sameOptions : l.registry.options = options
  sameGlobals : l.registry.globals = options.globalSearchPaths
  sessions : l.Each fun _ s => IsHonest bundled view options s
  /-- Sessions are found by their configs. -/
  byConfig : ∀ key id, l.registry.byConfig.get? key = some id →
    ∃ s, l.registry.sessions[id]? = some s ∧ s.configPath.components = key

theorem honest_new (bundled : Option Path) (view : FileView) (options : LintOptions) :
    Honest bundled view options (.new options ()) where
  sameOptions := rfl
  sameGlobals := rfl
  sessions := each_new _ options ()
  byConfig _ _ h := by cases h

/-- A session changes, but not its config. -/
theorem Honest.setSession (hl : Honest bundled view options l) {id : Nat} {s s' : Session.Checking}
    (hs : l.registry.sessions[id]? = some s) (hconfig : s'.configPath = s.configPath)
    (hs' : IsHonest bundled view options s') :
    Honest bundled view options (l.setSession id s' ()) where
  sameOptions := hl.sameOptions
  sameGlobals := hl.sameGlobals
  sessions := hl.sessions.setSession hs hs' ()
  byConfig key id' h := by
    obtain ⟨old, hold, hkey⟩ := hl.byConfig key id' h
    rw [sessions_setSession hs]
    by_cases e : id' = id
    · rw [e, hs] at hold
      cases hold
      exact ⟨s', if_pos e, by rw [hconfig, hkey]⟩
    · exact ⟨old, (if_neg e).trans hold, hkey⟩

/-- One more session, for a config that had none. -/
theorem Honest.add (hl : Honest bundled view options l) {s : Session.Checking}
    (hs : IsHonest bundled view options s) :
    Honest bundled view options (l.add s.configPath s) where
  sameOptions := hl.sameOptions
  sameGlobals := hl.sameGlobals
  sessions := hl.sessions.add hs _
  byConfig key id h := by
    rw [Linter.add, Table.get?_insert] at h
    rw [Linter.add, Array.getElem?_push]
    split at h
    · next e =>
      cases h
      exact ⟨s, if_pos rfl, e.symm⟩
    · obtain ⟨old, hold, hkey⟩ := hl.byConfig key id h
      exact ⟨old, (if_neg (Nat.ne_of_lt (Array.getElem?_eq_some_iff.mp hold).1)).trans hold, hkey⟩

/-- A new session is an honest one of its project, and its host has no memories. -/
theorem Honest.newSession (hl : Honest bundled view options l) {project : Path × Path} :
    (∀ f, newSession bundled view l.registry project = .error f →
        originOf bundled view options project = .error f) ∧
      ∀ s, newSession bundled view l.registry project = .ok s →
        s.configPath = project.1.normalize ∧
          originOf bundled view options project = .ok s.host ∧ s.Honest view s.host := by
  unfold Linter.newSession originOf
  rw [hl.sameOptions, hl.sameGlobals]
  cases ProjectConfig.load view project.1.normalize with
  | error e => exact ⟨fun f h => congrArg _ (Except.error.inj h), fun s h => nomatch h⟩
  | ok config =>
      refine ⟨fun f h => (nomatch h), fun s h => ?_⟩
      cases h
      have hfaithful := ImportCheck.faithful_new view config project.2.normalize
        options.globalSearchPaths (options.libDir.or bundled)
      exact ⟨rfl, rfl, hfaithful, Session.holds_of_empty _ hfaithful.wellFormed rfl⟩

/-- **Entering a project** gives an honest session of it, or the failure of its config. -/
theorem Honest.enter (hl : Honest bundled view options l) {file : Path} {project : Path × Path}
    (hp : projectOf view file = some project) :
    Honest bundled view options (l.enter bundled view project).2 ∧
      match (l.enter bundled view project).1 with
      | .error f => originOf bundled view options project = .error f
      | .ok id => ∃ s origin, (l.enter bundled view project).2.registry.sessions[id]? = some s ∧
          originOf bundled view options project = .ok origin ∧ s.Honest view origin := by
  obtain ⟨id, hid, he⟩ | ⟨-, ⟨f, hnew, he⟩ | ⟨s, hnew, he⟩⟩ := l.enter_cases bundled view project
  · rw [he]
    obtain ⟨s, hs, hkey⟩ := hl.byConfig _ _ hid
    obtain ⟨file', project', origin, hp', hconfig, horigin, hhonest⟩ := hl.sessions id s hs
    obtain ⟨hfirst, hsecond⟩ := projectOf_congr hp hp' (by rw [← hkey, hconfig])
    refine ⟨hl, s, origin, hs, ?_, hhonest⟩
    rw [originOf, hfirst, hsecond]
    exact horigin
  · rw [he]
    exact ⟨hl, hl.newSession.1 f hnew⟩
  · rw [he]
    obtain ⟨hconfig, horigin, hhonest⟩ := hl.newSession.2 s hnew
    refine ⟨hconfig ▸ hl.add ⟨file, project, _, hp, hconfig, horigin, hhonest⟩, s, _, ?_, horigin,
      hhonest⟩
    exact Array.getElem?_push_size

/-- **Asking a session** runs its call, and keeps a linter honest. -/
theorem Honest.ask (hc : view.Coherent) (hl : Honest bundled view options l) {id : Nat}
    {s : Session.Checking} (hs : l.registry.sessions[id]? = some s) (file : Path) :
    let run := s.diagnostics (importEngine bundled) view file ()
    l.ask bundled view id file = (some run.1, l.setSession id run.2.1 ()) ∧
      Honest bundled view options (l.setSession id run.2.1 ()) := by
  obtain ⟨hnone, -⟩ | ⟨s', hs', he⟩ := l.ask_cases bundled view id file
  · rw [hs] at hnone
    cases hnone
  · rw [hs] at hs'
    cases hs'
    obtain ⟨file', project, origin, hp, hconfig, horigin, hhonest⟩ := hl.sessions id s hs
    have hsame := Session.configPath_diagnostics bundled view file s
    exact ⟨he, hl.setSession hs hsame ⟨file', project, origin, hp, hsame.trans hconfig, horigin,
      (hhonest.diagnostics hc bundled file).2.1⟩⟩

/-- **A release** keeps a linter honest. -/
theorem Honest.release (hl : Honest bundled view options l) (id : Nat) (file : Path) :
    Honest bundled view options (l.release bundled id file) := by
  unfold Linter.release
  cases hs : l.registry.sessions[id]? with
  | none => exact hl
  | some s =>
      obtain ⟨file', project, origin, hp, hconfig, horigin, hhonest⟩ := hl.sessions id s hs
      exact hl.setSession hs rfl ⟨file', project, origin, hp, hconfig, horigin,
        hhonest.release bundled file⟩

/-- **Telling** makes reports with the lines of a text that is known, and keeps a linter honest. -/
theorem Honest.tell (hl : Honest bundled view options l) {id : Nat} {s : Session.Checking}
    (hs : l.registry.sessions[id]? = some s) {p : Path} {text : Text}
    (hk : s.host.snapshots.known p = some (some text)) {found : List Diagnostic}
    (hd : ∀ d ∈ found, d.IsAbout p.normalize) (node : Path) :
    (l.tell view id node found).1 =
        (counted options found).map (fun d => d.toReport node fun _ => some (.ofText text)) ∧
      Honest bundled view options (l.tell view id node found).2 := by
  obtain ⟨file, project, origin, hp, hconfig, horigin, hhonest⟩ := hl.sessions id s hs
  obtain ⟨t, hnotes, htell⟩ := tell_of_known hs hhonest.holds.wellFormed hk hd view node
  rw [htell, hl.sameOptions]
  exact ⟨rfl, hl.setSession hs rfl
    ⟨file, project, origin, hp, hconfig, horigin, hhonest.note hnotes⟩⟩

/-- **A visit** makes the reports that can be told from the files, and keeps a linter honest. -/
theorem lintFile_honest (hc : view.Coherent) (hl : Honest bundled view options l) (file : Path) :
    withoutLibraryReport (l.lintFile (importEngine bundled) view file).1 =
        reportsFor bundled view options file ∧
      Honest bundled view options (l.lintFile (importEngine bundled) view file).2 := by
  rw [lintFile_eq, reportsFor]
  cases hp : projectOf view file with
  | none => exact ⟨rfl, hl⟩
  | some project =>
      obtain ⟨henter, hsession⟩ := hl.enter hp
      simp only
      generalize l.enter bundled view project = entered at henter hsession ⊢
      obtain ⟨id, l'⟩ := entered
      cases id with
      | error f =>
          rw [show originOf bundled view options project = .error f from hsession]
          exact ⟨rfl, henter⟩
      | ok id =>
          obtain ⟨s, origin, hs, horigin, hhonest⟩ := hsession
          obtain ⟨hask, hl''⟩ := henter.ask hc hs file.normalize
          obtain ⟨hverdict, hhonest', hkept⟩ := hhonest.diagnostics hc bundled file.normalize
          rw [Path.normalize_normalize] at hverdict
          simp only at hask ⊢
          rw [hask, horigin]
          have hs' := sessions_setSession hs
            (s.diagnostics (importEngine bundled) view file.normalize ()).2.1 () id
          rw [if_pos rfl] at hs'
          simp only
          rw [← hverdict]
          generalize s.diagnostics (importEngine bundled) view file.normalize () = run at *
          obtain ⟨found, s', shared⟩ := run
          cases found with
          | error f => exact ⟨rfl, hl''⟩
          | ok found =>
              obtain ⟨text, hknown, habout, -, hlook⟩ :=
                hhonest'.holds.found file.normalize found (hkept found rfl)
              rw [Path.normalize_normalize] at hlook
              simp only at hs' ⊢
              obtain ⟨htold, hafter⟩ := hl''.tell hs' hknown habout file.normalize
              rw [htold, hlook]
              exact ⟨withoutLibraryReport_map .., hafter⟩

/-! ### Runs -/

/-- A file is visited, or a session forgets a file. -/
inductive Step where
  | visit (file : Path)
  | release (session : Nat) (file : Path)

/-- The linter after a step. -/
def step (bundled : Option Path) (view : FileView) (l : Checking) : Step → Checking
  | .visit file => (l.lintFile (importEngine bundled) view file).2
  | .release id file => l.release bundled id file

/-- The linter after some steps. -/
def afterSteps (bundled : Option Path) (view : FileView) (l : Checking) (run : List Step) :
    Checking :=
  run.foldl (step bundled view) l

theorem Honest.afterSteps (hc : view.Coherent) (hl : Honest bundled view options l)
    (run : List Step) : Honest bundled view options (l.afterSteps bundled view run) := by
  induction run generalizing l with
  | nil => exact hl
  | cons c rest ih =>
      cases c with
      | visit file => exact ih (lintFile_honest hc hl file).2
      | release id file => exact ih (hl.release id file)

/-- The reports of a visit after a run, without that of a missing library. -/
def reportsAfter (bundled : Option Path) (view : FileView) (options : LintOptions)
    (run : List Step) (file : Path) : List Report :=
  withoutLibraryReport (((Linter.new options ()).afterSteps bundled view run).lintFile
    (importEngine bundled) view file).1

/-- **Reports do not depend on what was linted before.**  Let the files and the options stay as
they are.  After any two runs of visits and releases a visit of a file makes the same reports,
but for that of a missing library. -/
theorem reports_independent (hc : view.Coherent) (options : LintOptions) (run run' : List Step)
    (file : Path) :
    reportsAfter bundled view options run file = reportsAfter bundled view options run' file := by
  have htold : ∀ run : List Step, reportsAfter bundled view options run file =
      reportsFor bundled view options file := fun run =>
    (lintFile_honest hc ((honest_new bundled view options).afterSteps hc run) file).1
  rw [htold, htold]

/-- A project of two sources, one of which refers to nothing that is there. -/
def smallProject : MemoryTree := .ofFiles [
  (.ofString "/p/tsconfig.json", "{}".toList),
  (.ofString "/p/a.ts", "import './b';".toList),
  (.ofString "/p/c.ts", "import './a';".toList)]

/-- The config of the project says nothing. -/
theorem smallProject_config :
    ProjectConfig.load smallProject.view (Path.ofString "/p/tsconfig.json").normalize =
      ProjectConfig.ofWritten (Path.ofString "/p/tsconfig.json").normalize {} :=
  Registry.load_of_read rfl

/-- What is reported of it after other visits and releases is what is reported at first. -/
theorem reportsAfter_smallProject :
    smallProject.view.Coherent ∧
      reportsAfter none smallProject.view { libDir := some (.ofString "/lib") }
          [.visit (.ofString "/p/c.ts"), .visit (.ofString "/p/a.ts"),
            .release 0 (.ofString "/p//c.ts")] (.ofString "/p/a.ts") =
        [{ file := .ofString "/p/a.ts", category := .error, code := 2307
           message := "Cannot find module './b' or its corresponding type declarations."
           location := .range ⟨1, 7⟩ ⟨1, 12⟩ }] := by
  refine ⟨smallProject.coherent, ?_⟩
  rw [reports_independent smallProject.coherent _ _ []]
  have hproject : projectOf smallProject.view (.ofString "/p/a.ts") =
      some (.ofString "/p/tsconfig.json", .ofString "/p") := by decide +kernel
  rw [reportsAfter, afterSteps, List.foldl_nil,
    (lintFile_honest smallProject.coherent (honest_new ..) _).1, reportsFor, hproject]
  simp only [originOf, smallProject_config]
  decide +kernel

end Linter

end ImportLint
