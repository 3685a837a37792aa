import ImportLint.Proofs.Lint.Placement
import ImportLint.Proofs.Path.Names

/-!
# Linting — the project of a file

A file belongs to the nearest config above it.  The walk to it takes a probe that fails for
an empty place, whatever the failure: a config that cannot be inspected is passed over, and the
file is checked in a project farther up, or not at all.

* `discover`: what is nearest above a file, if a failure that does not mean absence is not passed
  over.
* `Follows`: what a visit has to be by that.
* `discover_answered`: the walk that is made discovers in the places whose probes are answered.
* `lintFile_follows`: so a visit is as it has to be by these places, and by all of them unless
  the nearest is one in trouble.
-/

namespace ImportLint.Linter

/-! ### What is above a file -/

/-- The directories above a path, by their names, the nearest first. -/
def above (p : Path) : List (List Text) := p.names.inits.dropLast.reverse

/-- The place of the config of a directory. -/
def configIn (dir : List Text) : Path := .ofNames (dir ++ [configFileName])

/-- What a walk over directories comes to. -/
inductive Discovery where
  | nothing
  /-- The config of a directory. -/
  | config (dir : List Text)
  /-- A config that cannot be inspected. -/
  | trouble (dir : List Text) (failure : LintError)
deriving DecidableEq

/-- The nearest place that a probe does not find empty. -/
def discover (view : FileView) : List (List Text) → Discovery
  | [] => .nothing
  | dir :: dirs =>
    match view.fileExists (configIn dir) with
    | .ok true => .config dir
    | .ok false => discover view dirs
    | .error f => .trouble dir f

/-- The directories where the probe is answered. -/
def answered (view : FileView) (dirs : List (List Text)) : List (List Text) :=
  dirs.filter fun dir => (view.fileExists (configIn dir)).isOk

/-- Whether a walk comes to a config that cannot be inspected. -/
def Discovery.IsTrouble : Discovery → Prop
  | .trouble .. => True
  | _ => False

variable {view : FileView} {dir : List Text} {dirs : List (List Text)}

theorem answered_cons_of_ok {b : Bool} (h : view.fileExists (configIn dir) = .ok b) :
    answered view (dir :: dirs) = dir :: answered view dirs :=
  List.filter_cons_of_pos (by rw [h]; rfl)

theorem answered_cons_of_error {f : LintError} (h : view.fileExists (configIn dir) = .error f) :
    answered view (dir :: dirs) = answered view dirs :=
  List.filter_cons_of_neg (by rw [h]; exact Bool.false_ne_true)

/-- A file is seen where the probe says so; a failure says nothing. -/
theorem isFile_eq (view : FileView) (p : Path) :
    view.isFile p = (view.fileExists p).toOption.getD false := by
  unfold FileView.isFile FileView.fileExists
  cases view.stat p with
  | ok s => rfl
  | error f =>
      simp only
      split <;> rfl

/-- **The walk** discovers in the places whose probes are answered. -/
theorem discover_answered (view : FileView) (dirs : List (List Text)) :
    discover view (answered view dirs) =
      match dirs.find? fun dir => view.isFile (configIn dir) with
      | none => .nothing
      | some dir => .config dir := by
  induction dirs with
  | nil => rfl
  | cons dir dirs ih =>
      rw [List.find?_cons, isFile_eq]
      cases h : view.fileExists (configIn dir) with
      | error f => rw [answered_cons_of_error h]; exact ih
      | ok b =>
          rw [answered_cons_of_ok h, discover, h]
          cases b with
          | false => exact ih
          | true => rfl

/-- Without trouble the same is discovered in all places. -/
theorem discover_answered_of_not_isTrouble (h : ¬ (discover view dirs).IsTrouble) :
    discover view (answered view dirs) = discover view dirs := by
  induction dirs with
  | nil => rfl
  | cons dir dirs ih =>
      rw [discover] at h ⊢
      cases he : view.fileExists (configIn dir) with
      | error f =>
          rw [he] at h
          exact absurd trivial h
      | ok b =>
          rw [answered_cons_of_ok he, discover]
          rw [he] at h ⊢
          cases b with
          | false => exact ih h
          | true => rfl

/-- The project of a file in the terms of names. -/
theorem projectOf_eq (view : FileView) {file : Path} (hf : file.isAbsolute = true) :
    projectOf view file =
      ((above file.normalize).find? fun dir => view.isFile (configIn dir)).map fun dir =>
        (configIn dir, .ofNames dir) := by
  obtain ⟨hnames, hnorm⟩ := Path.ofNames_names_normalize hf
  rw [above, projectOf]
  generalize file.normalize.names = ns at hnames hnorm ⊢
  rw [← hnorm]
  rcases List.eq_nil_or_concat ns with rfl | ⟨dir, n, rfl⟩
  · rfl
  · rw [List.concat_eq_append] at hnames ⊢
    obtain ⟨hdir, hn⟩ := Path.areNames_append.mp hnames
    have hplaces : (Path.ofNames dir).ancestors.map (fun d => d.join ⟨configFileName⟩) =
        dir.inits.reverse.map configIn := by
      rw [Path.ancestors_ofNames hdir, List.map_map]
      refine List.map_congr_left fun d hd => Path.join_ofNames ?_ (by decide)
      exact hdir.of_beginning (List.mem_inits _ _ |>.mp (List.mem_reverse.mp hd))
    have habove : (dir ++ [n]).inits.dropLast = dir.inits := by simp [List.inits_append]
    rw [Path.parent_ofNames_concat hdir (hn n List.mem_cons_self), Option.bind_some,
      findProjectConfig, findUp, hplaces, habove, List.find?_map, Option.map_map]
    refine Option.map_congr fun d hd => ?_
    have hd := hdir.of_beginning (List.mem_inits _ _ |>.mp
      (List.mem_reverse.mp (List.mem_of_find?_eq_some hd)))
    rw [Function.comp_apply, configIn, Path.parent_ofNames_concat hd (by decide)]
    rfl

/-! ### What a visit has to be -/

variable (bundled : Option Path) (view : FileView)

/-- Checks a file in the session of a number. -/
def checkIn (id : Nat) (node : Path) (l : Checking) : List Report × Checking :=
  match l.ask bundled view id node with
  | (none, l') => ([], l')
  | (some (.error f), l') => ([.onNode node .error internalCode f.message], l')
  | (some (.ok found), l') => l'.tell view id node found.value

/-- A linter has a session for a config. -/
def Serves (l : Checking) (config : Path) (id : Nat) : Prop :=
  l.registry.byConfig.get? config.components = some id ∧
    ∃ s, l.registry.sessions[id]? = some s ∧ s.configPath = config

/-- What a visit of a file has to be, by what is discovered above the file.

* Above it is nothing: there are no reports, and no session is made.
* There is a config: the file is checked in the session of the config, which is there or is made
  with the config as it is loaded; or the config cannot be loaded, and that is the report.
* The config cannot be inspected: that is the report. -/
def Follows (l : Checking) (node : Path) (visit : List Report × Checking) : Discovery → Prop
  | .nothing => visit = ([], l)
  | .config dir =>
    (∃ id, l.Serves (configIn dir) id ∧ visit = l.checkIn bundled view id node) ∨
      l.registry.byConfig.get? (configIn dir).components = none ∧
        ((∃ f, ProjectConfig.load view (configIn dir) = .error f ∧
            visit = ([.onNode node .error internalCode f.message], l)) ∨
          ∃ s id, newSession bundled view l.registry (configIn dir, .ofNames dir) = .ok s ∧
            (l.add (configIn dir) s).Serves (configIn dir) id ∧
            visit = (l.add (configIn dir) s).checkIn bundled view id node)
  | .trouble _ _ => ∃ message, visit.1 = [.onNode node .error internalCode message]

/-! ### Sessions are found by their configs -/

/-- A config in the table has the session of its path. -/
def Keyed (l : Checking) : Prop :=
  ∀ key id, l.registry.byConfig.get? key = some id →
    ∃ s, l.registry.sessions[id]? = some s ∧ s.configPath.normalize = s.configPath ∧
      s.configPath.components = key

namespace Keyed

variable {bundled view} {l : Checking}

theorem new (options : LintOptions) : Keyed (.new options ()) := fun key id h => by cases h

/-- A session changes, but not its config. -/
theorem setSession (hl : l.Keyed) {id : Nat} {s s' : Session.Checking}
    (hs : l.registry.sessions[id]? = some s) (hconfig : s'.configPath = s.configPath)
    (shared : Unit) : (l.setSession id s' shared).Keyed := by
  intro key id' h
  obtain ⟨old, hold, hkey⟩ := hl key id' h
  rw [sessions_setSession hs]
  by_cases e : id' = id
  · rw [e, hs] at hold
    cases hold
    exact ⟨s', if_pos e, hconfig ▸ hkey⟩
  · exact ⟨old, (if_neg e).trans hold, hkey⟩

/-- One more session, for its config. -/
theorem add (hl : l.Keyed) {s : Session.Checking} (hs : s.configPath.normalize = s.configPath) :
    (l.add s.configPath s).Keyed := by
  intro key id h
  rw [Linter.add, Table.get?_insert] at h
  rw [Linter.add, Array.getElem?_push]
  split at h
  · next e =>
    cases h
    exact ⟨s, if_pos rfl, hs, e.symm⟩
  · obtain ⟨old, hold, hkey⟩ := hl key id h
    exact ⟨old, (if_neg (Nat.ne_of_lt (Array.getElem?_eq_some_iff.mp hold).1)).trans hold, hkey⟩

/-- A new session is one of its config. -/
theorem configPath_newSession {r : Registry ImportCheck.State} {project : Path × Path}
    {s : Session.Checking} (hs : newSession bundled view r project = .ok s) :
    s.configPath = project.1.normalize := by
  unfold newSession at hs
  cases hload : ProjectConfig.load view project.1.normalize with
  | error f => rw [hload] at hs; cases hs
  | ok config => rw [hload] at hs; cases hs; rfl

theorem enter (hl : l.Keyed) (bundled : Option Path) (view : FileView) (project : Path × Path) :
    (l.enter bundled view project).2.Keyed := by
  obtain ⟨id, -, he⟩ | ⟨-, ⟨f, -, he⟩ | ⟨s, hs, he⟩⟩ := l.enter_cases bundled view project
  · rwa [he]
  · rwa [he]
  · have hconfig := configPath_newSession hs
    rw [he, ← hconfig]
    exact hl.add (by rw [hconfig, Path.normalize_normalize])

theorem ask (hl : l.Keyed) (bundled : Option Path) (view : FileView) (id : Nat) (file : Path) :
    (l.ask bundled view id file).2.Keyed := by
  obtain ⟨-, he⟩ | ⟨s, hs, he⟩ := l.ask_cases bundled view id file
  · rwa [he]
  · rw [he]
    exact hl.setSession hs (Session.configPath_operate (e := importEngine bundled)
      (.diagnostics file)) ()

theorem tell (hl : l.Keyed) (view : FileView) (id : Nat) (node : Path) (found : List Diagnostic) :
    (l.tell view id node found).2.Keyed := by
  unfold Linter.tell
  cases hs : l.registry.sessions[id]? with
  | none => exact hl
  | some s =>
      have hconfig (host : Host) : ({ s with host } : Session.Checking).configPath = s.configPath :=
        rfl
      exact hl.setSession hs (hconfig _) l.shared

theorem release (hl : l.Keyed) (bundled : Option Path) (id : Nat) (file : Path) :
    (l.release bundled id file).Keyed := by
  unfold Linter.release
  cases hs : l.registry.sessions[id]? with
  | none => exact hl
  | some s =>
      have hconfig : (s.release (importEngine bundled) file l.shared).2.1.configPath =
          s.configPath := rfl
      exact hl.setSession hs hconfig _

theorem checkIn (hl : l.Keyed) (bundled : Option Path) (view : FileView) (id : Nat)
    (node : Path) : (l.checkIn bundled view id node).2.Keyed := by
  have hask := hl.ask bundled view id node
  unfold Linter.checkIn
  generalize l.ask bundled view id node = asked at hask ⊢
  obtain ⟨found, l'⟩ := asked
  cases found with
  | none => exact hask
  | some found =>
      cases found with
      | error f => exact hask
      | ok found => exact hask.tell view id node found.value

end Keyed

/-! ### What a visit is -/

variable {bundled view} {l : Checking}

/-- A visit enters a project and checks the file there. -/
theorem lintFile_of_projectOf {file : Path} {project : Path × Path}
    (hp : projectOf view file = some project) :
    l.lintFile (importEngine bundled) view file =
      match l.enter bundled view project with
      | (.error f, l') => ([.onNode file.normalize .error internalCode f.message], l')
      | (.ok id, l') => l'.checkIn bundled view id file.normalize := by
  rw [lintFile_eq, hp]
  rfl

theorem Keyed.next (hl : l.Keyed) (bundled : Option Path) (view : FileView) (c : Call) :
    (l.next bundled view c).Keyed := by
  cases c with
  | session config root => exact hl.enter bundled view (config, root)
  | diagnose id file => exact hl.ask bundled view id file
  | release id file => exact hl.release bundled id file
  | lint file =>
      rw [Linter.next]
      cases hp : projectOf view file with
      | none => rwa [lintFile_eq, hp]
      | some project =>
          have henter := hl.enter bundled view project
          rw [lintFile_of_projectOf hp]
          generalize l.enter bundled view project = entered at henter ⊢
          obtain ⟨id, l'⟩ := entered
          cases id with
          | error f => exact henter
          | ok id => exact henter.checkIn bundled view id _

theorem Keyed.after (hl : l.Keyed) (bundled : Option Path) (run : List (FileView × Call)) :
    (l.after bundled run).Keyed := by
  induction run generalizing l with
  | nil => exact hl
  | cons c rest ih => exact ih (hl.next bundled c.1 c.2)

/-- A config of names that is in the table has its session. -/
theorem Keyed.serves (hl : l.Keyed) {dir : List Text} (hdir : Path.AreNames dir) {id : Nat}
    (hid : l.registry.byConfig.get? (configIn dir).components = some id) :
    l.Serves (configIn dir) id := by
  obtain ⟨s, hs, hnorm, hkey⟩ := hl _ id hid
  refine ⟨hid, s, hs, ?_⟩
  rw [← hnorm, Path.normalize_eq_of_same hkey]
  exact Path.normalize_ofNames (hdir.concat (by decide))

/-- **A visit** is as it has to be by the places whose probes are answered. -/
theorem Keyed.follows_answered (hl : l.Keyed) (bundled : Option Path) (view : FileView)
    {file : Path} (hf : file.isAbsolute = true) :
    l.Follows bundled view file.normalize (l.lintFile (importEngine bundled) view file)
      (discover view (answered view (above file.normalize))) := by
  rw [discover_answered]
  have hp := projectOf_eq view hf
  cases hfind : (above file.normalize).find? fun dir => view.isFile (configIn dir) with
  | none =>
      rw [hfind] at hp
      rw [lintFile_eq, hp]
      rfl
  | some dir =>
      rw [hfind] at hp
      have hdir : Path.AreNames dir := (Path.ofNames_names_normalize hf).1.of_beginning
        ((List.mem_inits _ _).mp (List.dropLast_subset _
          (List.mem_reverse.mp (List.mem_of_find?_eq_some hfind))))
      have hnorm : (configIn dir).normalize = configIn dir :=
        Path.normalize_ofNames (hdir.concat (by decide))
      have henter := hl.enter bundled view (configIn dir, .ofNames dir)
      rw [lintFile_of_projectOf hp]
      simp only
      obtain ⟨id, hid, he⟩ | ⟨hnone, ⟨f, hs, he⟩ | ⟨s, hs, he⟩⟩ :=
        l.enter_cases bundled view (configIn dir, .ofNames dir)
      · rw [hnorm] at hid
        rw [he]
        exact Or.inl ⟨id, hl.serves hdir hid, rfl⟩
      · rw [hnorm] at hnone
        rw [he]
        refine Or.inr ⟨hnone, Or.inl ⟨f, ?_, rfl⟩⟩
        unfold newSession at hs
        rw [hnorm] at hs
        cases hload : ProjectConfig.load view (configIn dir) with
        | error g => rw [hload] at hs; cases hs; rfl
        | ok config => rw [hload] at hs; cases hs
      · rw [hnorm] at hnone he
        rw [he] at henter ⊢
        refine Or.inr ⟨hnone, Or.inr ⟨s, _, hs, henter.serves hdir ?_, rfl⟩⟩
        rw [Linter.add, Table.get?_insert, if_pos rfl]

/-- **A file is checked in its nearest project**, at any point of any run, unless the nearest
config cannot be inspected: then the walk goes on, as if there were no such place. -/
theorem lintFile_follows (bundled : Option Path) (options : LintOptions)
    (run : List (FileView × Call)) (view : FileView) (file : Path)
    (hf : file.isAbsolute = true) :
    let l := after bundled (.new options ()) run
    let visit := l.lintFile (importEngine bundled) view file
    let dirs := above file.normalize
    l.Follows bundled view file.normalize visit (discover view (answered view dirs)) ∧
      (¬ (discover view dirs).IsTrouble →
        l.Follows bundled view file.normalize visit (discover view dirs)) := by
  intro l visit dirs
  have hl := ((Keyed.new options).after bundled run).follows_answered bundled view hf
  exact ⟨hl, fun h => discover_answered_of_not_isTrouble h ▸ hl⟩

/-- A project in a directory whose own config cannot be inspected. -/
def guarded : MemoryTree :=
  (MemoryTree.ofFiles [(.ofString "/p/tsconfig.json", "{}".toList),
    (.ofString "/p/q/a.ts", [])]).fail (.ofString "/tsconfig.json") .permissionDenied

/-- Trouble farther up does not matter. -/
theorem lintFile_guarded :
    let file := Path.ofString "/p/q/../q/a.ts"
    let l : Checking := .new {} ()
    file.isAbsolute = true ∧
      discover guarded.view (above file.normalize) = .config ["p".toList] ∧
      l.Follows none guarded.view file.normalize
        (l.lintFile (importEngine none) guarded.view file) (.config ["p".toList]) := by
  intro file l
  have hd : discover guarded.view (above file.normalize) = .config ["p".toList] := by
    decide +kernel
  refine ⟨rfl, hd, ?_⟩
  have h := (lintFile_follows none {} [] guarded.view file rfl).2 (by rw [hd]; exact id)
  rwa [hd] at h

/-- A file beside a config that cannot be inspected. -/
def locked : MemoryTree :=
  (MemoryTree.ofFiles [(.ofString "/p/tsconfig.json", "{}".toList),
    (.ofString "/p/a.ts", "import './b';".toList)]).fail
      (.ofString "/p/tsconfig.json") .permissionDenied

/-- **The boundary**: the nearest config is in trouble, and the file is passed over in silence. -/
theorem lintFile_locked :
    let file := Path.ofString "/p/a.ts"
    let l : Checking := .new {} ()
    let visit := l.lintFile (importEngine none) locked.view file
    discover locked.view (above file.normalize) = .trouble ["p".toList]
        (.stat (.ofString "/p/tsconfig.json") ⟨.permissionDenied, "/p/tsconfig.json"⟩) ∧
      visit = ([], l) ∧
      ¬ l.Follows none locked.view file.normalize visit
        (discover locked.view (above file.normalize)) := by
  intro file l visit
  have hd : discover locked.view (above file.normalize) = .trouble ["p".toList]
      (.stat (.ofString "/p/tsconfig.json") ⟨.permissionDenied, "/p/tsconfig.json"⟩) := by
    decide +kernel
  have hvisit : visit = ([], l) := by
    have hp : projectOf locked.view file = none := by decide +kernel
    simp only [visit]
    rw [lintFile_eq, hp]
  refine ⟨hd, hvisit, fun h => ?_⟩
  rw [hd] at h
  obtain ⟨message, h⟩ := h
  rw [hvisit] at h
  cases h

end ImportLint.Linter
