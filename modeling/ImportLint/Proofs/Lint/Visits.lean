import ImportLint.Lint.Linter
import ImportLint.Proofs.Report.Ranges
import ImportLint.Proofs.Session.Registry

/-!
# Linting — a visit, step by step

A visit of a file finds the session of its project, asks it for the faults of the file and tells
them.  Only the first two steps change what is known: the lines that faults are told with come
from a text that the session already knows, and are noted with it.

* `Report.Renders`: a report says what a diagnostic says, with the lines of a text.
* `Diagnostic.IsToldFrom`: a diagnostic about bytes of a text that is known.
* `Linter.reportsOf_run`: such diagnostics are told with the lines of what is known.
* `Linter.projectOf`, `enter`, `ask`, `tell`: the steps; `lintFile_eq` says that these are all.
* `Linter.enter_cases`: what entering a project can do.
* `Linter.tell_eq`: what telling does to a linter.
-/

namespace ImportLint

/-! ### Reports -/

/-- A report on a diagnostic: at the lines of a text if the diagnostic is about a file. -/
structure Report.Renders (text : Text) (d : Diagnostic) (r : Report) : Prop where
  category : r.category = d.category
  code : r.code = d.code
  message : r.message = d.message
  location : ∀ file, d.file = some file → r.file = file ∧
    ∃ start length, d.start = some start ∧ d.length = some length ∧
      r.location = .range ((LineTable.ofText text).position start)
        ((LineTable.ofText text).position (start + length))

/-- A report is made with the lines of the file that its diagnostic is about, and no others. -/
theorem Diagnostic.toReport_congr {d : Diagnostic} {tables tables' : Path → Option LineTable}
    (h : ∀ file start length, d.span? = some (file, start, length) → tables file = tables' file)
    (node : Path) : d.toReport node tables = d.toReport node tables' := by
  rw [toReport, toReport]
  cases hspan : d.span? with
  | none => rfl
  | some span =>
      obtain ⟨file, start, length⟩ := span
      simp only [Option.bind_eq_bind, Option.bind_some, h file start length hspan]

/-- The report of a diagnostic about a file. -/
theorem Diagnostic.IsAbout.toReport_eq {d : Diagnostic} {p : Path} (h : d.IsAbout p) (node : Path)
    {tables : Path → Option LineTable} {table : LineTable} (ht : tables p = some table) :
    d.toReport node tables = d.toReport node fun _ => some table := by
  refine toReport_congr (fun file start length hspan => ?_) node
  obtain hf | ⟨hf, start', length', hs, hl, hpos⟩ := h
  · rw [span?_eq_none hf] at hspan
    cases hspan
  · rw [span?_eq_some hf hs hl hpos] at hspan
    cases hspan
    exact ht

theorem Diagnostic.IsAbout.renders {d : Diagnostic} {p : Path} (h : d.IsAbout p) (node : Path)
    (text : Text) : (d.toReport node fun _ => some (.ofText text)).Renders text d := by
  obtain hf | ⟨hf, start, length, hs, hl, hpos⟩ := h
  · rw [toReport, span?_eq_none hf]
    exact ⟨rfl, rfl, rfl, fun file hfile => by rw [hf] at hfile; cases hfile⟩
  · rw [toReport, span?_eq_some hf hs hl hpos]
    refine ⟨rfl, rfl, rfl, fun file hfile => ?_⟩
    rw [hf] at hfile
    cases hfile
    exact ⟨rfl, start, length, hs, hl, rfl⟩

/-! ### Telling what is known -/

namespace SnapshotTable

/-- The lines of a file, if its text is known. -/
def linesOf (t : SnapshotTable) (p : Path) : Option LineTable := (t.known p).join.map .ofText

theorem linesOf_of_known {t : SnapshotTable} {p : Path} {text : Text}
    (h : t.known p = some (some text)) : t.linesOf p = some (.ofText text) := by
  rw [linesOf, h]
  rfl

/-- What is known is the same in two tables that differ in lines. -/
theorem linesOf_eq {t t' : SnapshotTable} (h : t'.withoutLines = t.withoutLines) :
    t'.linesOf = t.linesOf :=
  funext fun p => by rw [linesOf, linesOf, known_eq h]

end SnapshotTable

/-- What a diagnostic is told with: if it is about some bytes, they are of a file, and the text
of the file is known. -/
def Diagnostic.IsToldFrom (d : Diagnostic) (t : SnapshotTable) (p : Path) : Prop :=
  ∀ file start length, d.span? = some (file, start, length) →
    file.normalize = p.normalize ∧ ∃ text, t.known file = some (some text)

/-- Texts that are known in one table are known in another one. -/
def SnapshotTable.Keeps (t t' : SnapshotTable) : Prop :=
  ∀ p text, t.known p = some (some text) → t'.known p = some (some text)

theorem SnapshotTable.keeps_of_withoutLines {t t' : SnapshotTable}
    (h : t'.withoutLines = t.withoutLines) : t.Keeps t' :=
  fun p _ hk => (known_eq h p).trans hk

theorem Diagnostic.IsToldFrom.mono {d : Diagnostic} {t t' : SnapshotTable} {p : Path}
    (h : d.IsToldFrom t p) (ht : t.Keeps t') : d.IsToldFrom t' p := fun file start length hs =>
  have ⟨hfile, text, hk⟩ := h file start length hs
  ⟨hfile, text, ht file text hk⟩

/-- A diagnostic about bytes of a file whose text is known. -/
theorem Diagnostic.IsAbout.isToldFrom {d : Diagnostic} {t : SnapshotTable} {p : Path}
    (h : d.IsAbout p.normalize) {text : Text} (hk : t.known p = some (some text)) :
    d.IsToldFrom t p := by
  intro file start length hs
  obtain hf | ⟨hf, start', length', hstart, hlength, hpos⟩ := h
  · rw [span?_eq_none hf] at hs
    cases hs
  · rw [span?_eq_some hf hstart hlength hpos] at hs
    cases hs
    have hsame := Path.normalize_normalize p
    exact ⟨hsame, text, (t.known_congr hsame).trans hk⟩

namespace Linter

/-- A fault whose text is known is told with its lines, which are noted. -/
theorem reportOf_run {h : Host} (hw : h.snapshots.WellFormed) {d : Diagnostic} {p : Path}
    (hd : d.IsToldFrom h.snapshots p) (view : FileView) (node : Path) :
    ∃ t, h.snapshots.Notes t ∧
      (reportOf view node d).run h =
        (d.toReport node h.snapshots.linesOf, { h with snapshots := t }) := by
  unfold reportOf
  split
  · next hspan =>
    have hreport : (d.toReport node fun _ => none) = d.toReport node h.snapshots.linesOf :=
      Diagnostic.toReport_congr (fun _ _ _ hsome => by cases hspan.symm.trans hsome) node
    exact ⟨_, .refl _, congrArg (·, h) hreport⟩
  · next file start length hspan =>
    obtain ⟨-, text, hk⟩ := hd file start length hspan
    have hreport : (d.toReport node fun _ => some (.ofText text)) =
        d.toReport node h.snapshots.linesOf :=
      Diagnostic.toReport_congr (fun _ _ _ hsome => by
        cases hspan.symm.trans hsome
        exact (SnapshotTable.linesOf_of_known hk).symm) node
    obtain ⟨t, hnotes, hrun⟩ := Host.lineTable_run view file hw
    rw [SnapshotTable.fetch_of_known view hk] at hnotes hrun
    refine ⟨t, hnotes, ?_⟩
    rw [Host.stateRun_bind, hrun]
    exact congrArg (·, ({ h with snapshots := t } : Host)) hreport

/-- **Faults whose text is known** are told with its lines, which are noted. -/
theorem reportsOf_run {h : Host} (hw : h.snapshots.WellFormed) {ds : List Diagnostic} {p : Path}
    (hd : ∀ d ∈ ds, d.IsToldFrom h.snapshots p) (view : FileView) (node : Path) :
    ∃ t, h.snapshots.Notes t ∧
      (reportsOf view node ds).run h =
        (ds.map fun d => d.toReport node h.snapshots.linesOf, { h with snapshots := t }) := by
  induction ds generalizing h with
  | nil => exact ⟨_, .refl _, rfl⟩
  | cons d ds ih =>
      obtain ⟨t, hnotes, hrun⟩ := reportOf_run hw (hd d List.mem_cons_self) view node
      have hw' : ({ h with snapshots := t } : Host).snapshots.WellFormed := hnotes.wellFormed hw
      obtain ⟨t', hnotes', hrun'⟩ := ih hw' fun d hm =>
        (hd d (List.mem_cons_of_mem _ hm)).mono (SnapshotTable.keeps_of_withoutLines hnotes.same)
      refine ⟨t', hnotes.trans hnotes', ?_⟩
      rw [reportsOf, Host.stateRun_bind, hrun, Host.stateRun_bind, hrun']
      simp only [SnapshotTable.linesOf_eq hnotes.same]
      rfl

/-! ### The steps of a visit -/

/-- A linter with the engine that checks references. -/
abbrev Checking := Linter ImportCheck.State Unit

variable {σ ω : Type} (bundled : Option Path) (view : FileView)

/-- The config that a file belongs to and the root of its project. -/
def projectOf (file : Path) : Option (Path × Path) :=
  file.normalize.parent.bind fun dir =>
    (findProjectConfig view dir).map fun config => (config, config.parent.getD dir)

/-- Finds the session of a project, or makes it. -/
def enter (project : Path × Path) (l : Checking) : Except LintError Nat × Checking :=
  let (id, registry, shared) :=
    l.registry.session (importEngine bundled) view project.1 project.2 l.shared
  (id, ⟨registry, shared⟩)

/-- Asks a session for the faults of a file. -/
def ask (id : Nat) (file : Path) (l : Checking) :
    Option (Except LintError (Shared (List Diagnostic))) × Checking :=
  match l.registry.sessions[id]? with
  | none => (none, l)
  | some s =>
    let (found, s, shared) := s.diagnostics (importEngine bundled) view file l.shared
    (some found, l.setSession id s shared)

/-- The faults that are not ignored. -/
def counted (options : LintOptions) (found : List Diagnostic) : List Diagnostic :=
  found.filter fun d => !options.isIgnored d.code

/-- Tells the faults of a file. -/
def tell (id : Nat) (node : Path) (found : List Diagnostic) (l : Linter σ ω) :
    List Report × Linter σ ω :=
  match l.registry.sessions[id]? with
  | none => ([], l)
  | some s =>
    let (reports, host) := (reportsOf view node (counted l.registry.options found)).run s.host
    (reports, l.setSession id { s with host } l.shared)

/-- Has a session forget a file. -/
def release (id : Nat) (file : Path) (l : Checking) : Checking :=
  match l.registry.sessions[id]? with
  | none => l
  | some s =>
    let (_, s, shared) := s.release (importEngine bundled) file l.shared
    l.setSession id s shared

theorem sessions_setSession {l : Linter σ ω} {id : Nat} {old : Session σ}
    (hold : l.registry.sessions[id]? = some old) (s : Session σ) (shared : ω) (id' : Nat) :
    (l.setSession id s shared).registry.sessions[id']? =
      if id' = id then some s else l.registry.sessions[id']? :=
  Registry.sessions_setSession hold s id'

theorem setSession_setSession (l : Linter σ ω) (id : Nat) (s s' : Session σ)
    (shared shared' : ω) :
    (l.setSession id s shared).setSession id s' shared' = l.setSession id s' shared' := by
  simp [setSession]

/-- **A visit is its steps.** -/
theorem lintFile_eq (file : Path) (l : Checking) :
    l.lintFile (importEngine bundled) view file =
      match projectOf view file with
      | none => ([], l)
      | some project =>
        match l.enter bundled view project with
        | (.error f, l') => ([.onNode file.normalize .error internalCode f.message], l')
        | (.ok id, l') =>
          match l'.ask bundled view id file.normalize with
          | (none, l'') => ([], l'')
          | (some (.error f), l'') =>
            ([.onNode file.normalize .error internalCode f.message], l'')
          | (some (.ok found), l'') => l''.tell view id file.normalize found.value := by
  unfold lintFile projectOf
  simp only
  cases file.normalize.parent with
  | none => rfl
  | some dir =>
      rw [Option.bind_some]
      simp only
      cases findProjectConfig view dir with
      | none => rfl
      | some config =>
          rw [Option.map_some]
          simp only [check, enter]
          generalize l.registry.session (importEngine bundled) view config _ l.shared = run
          obtain ⟨id, registry, shared⟩ := run
          cases id with
          | error f => rfl
          | ok id =>
              simp only [ask]
              cases hs : registry.sessions[id]? with
              | none => rfl
              | some s =>
                  simp only
                  generalize s.diagnostics (importEngine bundled) view file.normalize shared = run
                  obtain ⟨found, s', shared'⟩ := run
                  cases found with
                  | error f => rfl
                  | ok found =>
                      simp only [tell]
                      rw [sessions_setSession hs, if_pos rfl]
                      simp only [setSession_setSession]
                      rfl

/-! ### What each step does -/

variable {bundled view} {l : Checking}

/-- The session that is made for a project. -/
def newSession (bundled : Option Path) (view : FileView) (r : Registry ImportCheck.State)
    (project : Path × Path) : Except LintError Session.Checking :=
  (ProjectConfig.load view project.1.normalize).map fun config =>
    { configPath := project.1.normalize
      host := .new view config project.2.normalize r.globals (r.options.libDir.or bundled)
      engine := {} }

/-- A new session has found nothing. -/
theorem holds_of_newSession {r : Registry ImportCheck.State} {project : Path × Path}
    {s : Session.Checking} (hs : newSession bundled view r project = .ok s)
    (P : Path → Shared (List Diagnostic) → Text → Prop) : s.Holds P := by
  unfold newSession at hs
  cases hload : ProjectConfig.load view project.1.normalize with
  | error f => rw [hload] at hs; cases hs
  | ok config =>
      rw [hload] at hs
      cases hs
      exact Session.holds_of_empty P SnapshotTable.wellFormed_empty rfl

/-- The linter with one more session, for a config. -/
def add (config : Path) (s : Session.Checking) (l : Checking) : Checking where
  registry :=
    { l.registry with
      sessions := l.registry.sessions.push s
      byConfig := l.registry.byConfig.insert config.components l.registry.sessions.size }
  shared := ()

/-- **Entering a project** finds its session, or fails to make it, or makes it. -/
theorem enter_cases (bundled : Option Path) (view : FileView) (project : Path × Path)
    (l : Checking) :
    (∃ id, l.registry.byConfig.get? project.1.normalize.components = some id ∧
        l.enter bundled view project = (.ok id, l)) ∨
      l.registry.byConfig.get? project.1.normalize.components = none ∧
        ((∃ f, newSession bundled view l.registry project = .error f ∧
            l.enter bundled view project = (.error f, l)) ∨
          ∃ s, newSession bundled view l.registry project = .ok s ∧
            l.enter bundled view project =
              (.ok l.registry.sessions.size, l.add project.1.normalize s)) := by
  unfold enter Registry.session newSession Registry.makeSession
  simp only
  cases l.registry.byConfig.get? project.1.normalize.components with
  | some id => exact Or.inl ⟨id, rfl, rfl⟩
  | none =>
      refine Or.inr ⟨rfl, ?_⟩
      cases ProjectConfig.load view project.1.normalize with
      | error f => exact Or.inl ⟨f, rfl, rfl⟩
      | ok config => exact Or.inr ⟨_, rfl, rfl⟩

/-- Asking a session changes that session. -/
theorem ask_cases (bundled : Option Path) (view : FileView) (id : Nat) (file : Path)
    (l : Checking) :
    l.registry.sessions[id]? = none ∧ l.ask bundled view id file = (none, l) ∨
      ∃ s, l.registry.sessions[id]? = some s ∧
        let run := s.diagnostics (importEngine bundled) view file ()
        l.ask bundled view id file = (some run.1, l.setSession id run.2.1 ()) := by
  unfold ask
  cases hs : l.registry.sessions[id]? with
  | none => exact Or.inl ⟨rfl, rfl⟩
  | some s => exact Or.inr ⟨s, rfl, rfl⟩

theorem tell_of_session {l : Linter σ ω} {id : Nat} {s : Session σ}
    (hs : l.registry.sessions[id]? = some s) (view : FileView) (node : Path)
    (found : List Diagnostic) :
    l.tell view id node found =
      let told := (reportsOf view node (counted l.registry.options found)).run s.host
      (told.1, l.setSession id { s with host := told.2 } l.shared) := by
  rw [tell, hs]
  rfl

/-- **Telling notes lines** if the texts of the faults are known, and changes nothing else. -/
theorem tell_eq {l : Linter σ ω} {id : Nat} {s : Session σ}
    (hs : l.registry.sessions[id]? = some s) (hw : s.host.snapshots.WellFormed) {p : Path}
    {found : List Diagnostic} (hd : ∀ d ∈ found, d.IsToldFrom s.host.snapshots p)
    (view : FileView) (node : Path) :
    ∃ t, s.host.snapshots.Notes t ∧
      l.tell view id node found =
        ((counted l.registry.options found).map fun d =>
            d.toReport node s.host.snapshots.linesOf,
          l.setSession id { s with host := { s.host with snapshots := t } } l.shared) := by
  obtain ⟨t, hnotes, hrun⟩ :=
    reportsOf_run hw (fun d hm => hd d (List.mem_filter.mp hm).1) view node
  refine ⟨t, hnotes, ?_⟩
  rw [tell_of_session hs, counted, hrun]

/-- The faults of a file are told with its lines, if its text is known. -/
theorem tell_of_known {l : Linter σ ω} {id : Nat} {s : Session σ}
    (hs : l.registry.sessions[id]? = some s) (hw : s.host.snapshots.WellFormed) {p : Path}
    {text : Text} (hk : s.host.snapshots.known p = some (some text)) {found : List Diagnostic}
    (hd : ∀ d ∈ found, d.IsAbout p.normalize) (view : FileView) (node : Path) :
    ∃ t, s.host.snapshots.Notes t ∧
      l.tell view id node found =
        ((counted l.registry.options found).map fun d =>
            d.toReport node fun _ => some (.ofText text),
          l.setSession id { s with host := { s.host with snapshots := t } } l.shared) := by
  obtain ⟨t, hnotes, htell⟩ := tell_eq hs hw (fun d hm => (hd d hm).isToldFrom hk) view node
  refine ⟨t, hnotes, htell.trans (congrArg (·, _) (List.map_congr_left fun d hm => ?_))⟩
  have hk : s.host.snapshots.known p.normalize = some (some text) :=
    (SnapshotTable.known_congr _ (Path.normalize_normalize p)).trans hk
  exact (hd d (List.mem_filter.mp hm).1).toReport_eq node (SnapshotTable.linesOf_of_known hk)

/-! ### What holds of all sessions -/

/-- Each session of a linter has a property. -/
def Each (I : Nat → Session σ → Prop) (l : Linter σ ω) : Prop :=
  ∀ id s, l.registry.sessions[id]? = some s → I id s

theorem each_new (I : Nat → Session σ → Prop) (options : LintOptions) (shared : ω) :
    Each I (.new options shared) := fun id s h => by
  cases (Array.getElem?_empty (i := id)).symm.trans h

theorem Each.setSession {I : Nat → Session σ → Prop} {l : Linter σ ω} (hl : l.Each I) {id : Nat}
    {old s : Session σ} (hold : l.registry.sessions[id]? = some old) (hs : I id s) (shared : ω) :
    (l.setSession id s shared).Each I := by
  intro id' s' h
  rw [sessions_setSession hold] at h
  split at h
  · next e =>
    cases h
    exact e ▸ hs
  · exact hl id' s' h

theorem Each.add {I : Nat → Session.Checking → Prop} (hl : l.Each I) {s : Session.Checking}
    (hs : I l.registry.sessions.size s) (config : Path) : (l.add config s).Each I := by
  intro id s' h
  rw [Linter.add, Array.getElem?_push] at h
  split at h
  · next e =>
    cases h
    exact e ▸ hs
  · exact hl id s' h

end Linter

end ImportLint
