import ImportLint.Proofs.Lint.Independence
import ImportLint.Proofs.Lint.Local

/-!
# Linting — codes that are ignored

Diagnostics with ignored codes are dropped before they are translated.  A translation reads the
text of the file that the diagnostic is about, so nothing but reports may be lost by that only if
the text has been read already.  With an engine that tells faults of the file it is asked about
alone, and has read that file, it always has; all that is left to be lost are the lines of a text
that is known, which its snapshot keeps from the first translation on.

* `Linter.ignoring`, `withoutLines`: a linter with other codes to ignore, and one without the
  lines that its snapshots keep.
* `Linter.examine`: a check up to its reports; `check_eq` says that only telling is left.
* `Linter.Beside`: two linters with the same sessions, one of which ignores some codes.
* `Beside.check`, `visit`, `advance`, `advances`: a check, a visit, a step and a run of both.
* `Linter.ignored_only_filtered`: so it is for all runs.
* `Linter.ignored_unread`: with an engine that is not local, a report can be placed elsewhere
  because another one is ignored.
-/

namespace ImportLint

variable {σ ω : Type}

/-! ### Linters -/

/-- Nothing is dropped where no code is ignored. -/
theorem LintOptions.filter_isIgnored {options : LintOptions} (h : options.ignoreCodes = [])
    (ds : List Diagnostic) : (ds.filter fun d => !options.isIgnored d.code) = ds := by
  simp [LintOptions.isIgnored, h]

/-- A registry with other codes to ignore. -/
def Registry.ignoring (codes : List Nat) (r : Registry σ) : Registry σ :=
  { r with options := { r.options with ignoreCodes := codes } }

/-- Ignored codes do not matter to a request for a session. -/
theorem Registry.session_ignoring (codes : List Nat) (e : Engine σ ω) (view : FileView)
    (c root : Path) (r : Registry σ) (shared : ω) :
    (r.ignoring codes).session e view c root shared =
      let run := r.session e view c root shared
      (run.1, run.2.1.ignoring codes, run.2.2) := by
  unfold Registry.session makeSession
  simp only [Registry.ignoring]
  cases r.byConfig.get? c.normalize.components with
  | some id => rfl
  | none =>
      simp only
      cases ProjectConfig.load view c.normalize with
      | error f => rfl
      | ok config =>
          simp only
          generalize e.create _ shared = made
          obtain ⟨engine, shared'⟩ := made
          cases engine <;> rfl

/-- The registry without the lines that its snapshots keep. -/
def Registry.withoutLines (r : Registry σ) : Registry σ :=
  { r with sessions := r.sessions.map Session.withoutLines }

@[simp] theorem Registry.withoutLines_withoutLines (r : Registry σ) :
    r.withoutLines.withoutLines = r.withoutLines := by
  simp [withoutLines]

theorem Registry.sessions_withoutLines (r : Registry σ) (id : Nat) :
    r.withoutLines.sessions[id]? = r.sessions[id]?.map Session.withoutLines :=
  Array.getElem?_map

/-- Nor do lines: a new session has none. -/
theorem Registry.session_withoutLines (e : Engine σ ω) (view : FileView) (c root : Path)
    (r : Registry σ) (shared : ω) :
    r.withoutLines.session e view c root shared =
      let run := r.session e view c root shared
      (run.1, run.2.1.withoutLines, run.2.2) := by
  unfold Registry.session makeSession
  simp only [Registry.withoutLines, Array.size_map]
  cases r.byConfig.get? c.normalize.components with
  | some id => rfl
  | none =>
      simp only
      cases ProjectConfig.load view c.normalize with
      | error f => rfl
      | ok config =>
          simp only
          generalize e.create _ shared = made
          obtain ⟨engine, shared'⟩ := made
          cases engine with
          | error f => rfl
          | ok engine =>
              simp only [Array.map_push, Session.withoutLines_of_empty
                (s := { configPath := c.normalize, host := Host.new .., engine }) rfl]

namespace Linter

variable {e : Engine σ ω} {l k : Linter σ ω} {codes : List Nat}

/-- A linter with other codes to ignore: its sessions are the same, with all that they remember,
and so is what their engines share. -/
def ignoring (codes : List Nat) (l : Linter σ ω) : Linter σ ω :=
  { l with registry := l.registry.ignoring codes }

/-- The linter without the lines that its snapshots keep. -/
def withoutLines (l : Linter σ ω) : Linter σ ω :=
  { l with registry := l.registry.withoutLines }

@[simp] theorem withoutLines_withoutLines (l : Linter σ ω) :
    l.withoutLines.withoutLines = l.withoutLines := by
  rw [withoutLines, withoutLines, Registry.withoutLines_withoutLines]

theorem withoutLines_setSession (l : Linter σ ω) (id : Nat) (s : Session σ) (shared : ω) :
    (l.setSession id s shared).withoutLines =
      l.withoutLines.setSession id s.withoutLines shared := by
  simp [withoutLines, Registry.withoutLines, setSession, Array.map_setIfInBounds]

/-- All sessions of a linter are settled. -/
def Settled (l : Linter σ ω) : Prop := l.Each fun _ s => s.Settled

/-! ### A check, up to its reports -/

/-- The list of faults of a file and the number of the session that gives it. -/
def examine (e : Engine σ ω) (view : FileView) (file config root : Path) (l : Linter σ ω) :
    Except LintError (Option (Nat × Shared (List Diagnostic))) × Linter σ ω :=
  let (id, registry, shared) := l.registry.session e view config root l.shared
  let l : Linter σ ω := ⟨registry, shared⟩
  match id with
  | .error f => (.error f, l)
  | .ok id =>
    match registry.sessions[id]? with
    | none => (.ok none, l)
    | some s =>
      let (found, s, shared) := s.diagnostics e view file shared
      (found.map fun kept => some (id, kept), l.setSession id s shared)

/-- **A check** tells what it finds, and does nothing else. -/
theorem check_eq (e : Engine σ ω) (view : FileView) (file config root : Path) (l : Linter σ ω) :
    l.check e view file config root =
      match l.examine e view file config root with
      | (.error f, l') => (.error f, l')
      | (.ok none, l') => (.ok [], l')
      | (.ok (some (id, kept)), l') =>
        (.ok (l'.tell view id file kept.value).1, (l'.tell view id file kept.value).2) := by
  unfold check examine
  simp only
  generalize l.registry.session e view config root l.shared = entered
  obtain ⟨id, registry, shared⟩ := entered
  cases id with
  | error f => rfl
  | ok id =>
      simp only
      cases hs : registry.sessions[id]? with
      | none => rfl
      | some s =>
          simp only
          generalize s.diagnostics e view file shared = asked
          obtain ⟨found, s', shared'⟩ := asked
          cases found with
          | error f => rfl
          | ok found =>
              have hs : (⟨registry, shared⟩ : Linter σ ω).registry.sessions[id]? = some s := hs
              have hs' := sessions_setSession hs s' shared' id
              rw [if_pos rfl] at hs'
              simp only [Except.map]
              rw [tell_of_session hs']
              simp only [setSession_setSession]
              rfl

theorem options_examine (e : Engine σ ω) (view : FileView) (file config root : Path)
    (l : Linter σ ω) :
    (l.examine e view file config root).2.registry.options = l.registry.options := by
  have hsession : (l.registry.session e view config root l.shared).2.1.options =
      l.registry.options := by
    obtain ⟨id, -, hrun⟩ | ⟨-, ⟨f, -, hrun⟩ | ⟨config, -, ⟨f, -, hrun⟩ | ⟨engine, -, hrun⟩⟩⟩ :=
      Registry.session_cases e view config root l.registry l.shared
    · rw [hrun]
    · rw [hrun]
    · rw [hrun]
    · rw [hrun]
      rfl
  unfold examine
  generalize l.registry.session e view config root l.shared = entered at hsession ⊢
  obtain ⟨id, registry, shared⟩ := entered
  cases id with
  | error f => exact hsession
  | ok id =>
      simp only
      cases registry.sessions[id]? <;> exact hsession

/-- Ignored codes do not matter to a check up to its reports. -/
theorem examine_ignoring (codes : List Nat) (e : Engine σ ω) (view : FileView)
    (file config root : Path) (l : Linter σ ω) :
    (l.ignoring codes).examine e view file config root =
      ((l.examine e view file config root).1,
        (l.examine e view file config root).2.ignoring codes) := by
  unfold examine ignoring
  simp only
  rw [Registry.session_ignoring]
  generalize l.registry.session e view config root l.shared = entered
  obtain ⟨id, registry, shared⟩ := entered
  cases id with
  | error f => rfl
  | ok id =>
      simp only [show (registry.ignoring codes).sessions = registry.sessions from rfl]
      cases registry.sessions[id]? <;> rfl

/-- A request for a session keeps a linter settled: a new session has found nothing. -/
theorem Settled.session (hl : l.Settled) (e : Engine σ ω) (view : FileView) (c root : Path) :
    let run := l.registry.session e view c root l.shared
    (⟨run.2.1, run.2.2⟩ : Linter σ ω).Settled := by
  obtain ⟨id, -, hrun⟩ | ⟨-, ⟨f, -, hrun⟩ | ⟨config, -, ⟨f, -, hrun⟩ | ⟨engine, -, hrun⟩⟩⟩ :=
    Registry.session_cases e view c root l.registry l.shared
  · simp only [hrun]
    exact hl
  · simp only [hrun]
    exact hl
  · simp only [hrun]
    exact hl
  · simp only [hrun]
    intro id s h
    rw [Registry.sessions_addSession] at h
    split at h
    · cases h
      exact ⟨SnapshotTable.wellFormed_empty, fun _ _ h => nomatch h⟩
    · exact hl id s h

/-- **A check keeps a linter settled** up to its reports, and what it finds can be told from what
is known. -/
theorem Settled.examine (he : e.IsLocal) (hl : l.Settled) (view : FileView)
    (file config root : Path) :
    let run := l.examine e view file config root
    run.2.Settled ∧ ∀ id kept, run.1 = .ok (some (id, kept)) →
      ∃ s, run.2.registry.sessions[id]? = some s ∧
        ∀ d ∈ kept.value, d.IsToldFrom s.host.snapshots file := by
  have hsession := hl.session e view config root
  unfold Linter.examine
  simp only at hsession ⊢
  generalize l.registry.session e view config root l.shared = entered at hsession ⊢
  obtain ⟨id, registry, shared⟩ := entered
  cases id with
  | error f => exact ⟨hsession, fun id kept h => nomatch h⟩
  | ok id =>
      simp only at hsession ⊢
      cases hs : registry.sessions[id]? with
      | none => exact ⟨hsession, fun id kept h => nomatch h⟩
      | some s =>
          obtain ⟨hsettled, htold⟩ := (hsession id s hs).diagnostics he view file shared
          simp only
          generalize s.diagnostics e view file shared = asked at hsettled htold ⊢
          obtain ⟨found, s', shared'⟩ := asked
          have hs' : (⟨registry, shared⟩ : Linter σ ω).registry.sessions[id]? = some s := hs
          refine ⟨hsession.setSession hs' hsettled shared', fun id' kept h => ?_⟩
          cases found with
          | error f => cases h
          | ok found =>
              cases h
              exact ⟨s', (sessions_setSession hs' ..).trans (if_pos rfl), htold _ rfl⟩

/-- Lines do not matter to a check up to its reports. -/
theorem Settled.examine_withoutLines (he : e.IsLocal) (hl : l.Settled) (view : FileView)
    (file config root : Path) :
    let run := l.examine e view file config root
    let run' := l.withoutLines.examine e view file config root
    run'.1 = run.1 ∧ run'.2.withoutLines = run.2.withoutLines := by
  have hsession := hl.session e view config root
  unfold Linter.examine
  rw [show l.withoutLines.registry = l.registry.withoutLines from rfl,
    show l.withoutLines.shared = l.shared from rfl, Registry.session_withoutLines]
  simp only at hsession ⊢
  generalize l.registry.session e view config root l.shared = entered at hsession ⊢
  obtain ⟨id, registry, shared⟩ := entered
  cases id with
  | error f => exact ⟨rfl, withoutLines_withoutLines ⟨registry, shared⟩⟩
  | ok id =>
      simp only [Registry.sessions_withoutLines] at hsession ⊢
      cases hs : registry.sessions[id]? with
      | none => exact ⟨rfl, withoutLines_withoutLines ⟨registry, shared⟩⟩
      | some s =>
          obtain ⟨hfst, hsnd, hshared⟩ :=
            (hsession id s hs).diagnostics_withoutLines he view file shared
          simp only [Option.map_some]
          rw [hfst, hshared, withoutLines_setSession, withoutLines_setSession, hsnd]
          exact ⟨rfl, congrArg (setSession · id _ _) (withoutLines_withoutLines ⟨registry, shared⟩)⟩

/-! ### Two linters -/

/-- Reports without those of some codes. -/
def withoutCodes (codes : List Nat) (rs : List Report) : List Report :=
  rs.filter fun r => !codes.contains r.code

/-- **To drop what is told and to tell what is left** is the same. -/
theorem withoutCodes_map (codes : List Nat) (ds : List Diagnostic) (node : Path)
    (tables : Path → Option LineTable) :
    withoutCodes codes (ds.map fun d => d.toReport node tables) =
      (ds.filter fun d => !codes.contains d.code).map fun d => d.toReport node tables := by
  have hcodes : (fun r : Report => !codes.contains r.code) ∘
      (fun d : Diagnostic => d.toReport node tables) = fun d => !codes.contains d.code :=
    funext fun d => by rw [Function.comp_apply, (d.says_toReport node tables).2.1]
  rw [withoutCodes, List.filter_map, hcodes]

/-- Two linters with the same sessions but for lines.  One ignores nothing, the other one some
codes. -/
structure Beside (codes : List Nat) (l k : Linter σ ω) : Prop where
  ignoresNothing : l.registry.options.ignoreCodes = []
  same : k.withoutLines = l.withoutLines.ignoring codes
  settled : l.Settled
  settled' : k.Settled

theorem beside_new (options : LintOptions) (codes : List Nat) (shared : ω) :
    Beside codes (new { options with ignoreCodes := [] } shared : Linter σ ω)
      (new { options with ignoreCodes := codes } shared) where
  ignoresNothing := rfl
  same := rfl
  settled := each_new _ _ shared
  settled' := each_new _ _ shared

namespace Beside

theorem options_eq (h : Beside codes l k) :
    k.registry.options = { l.registry.options with ignoreCodes := codes } :=
  congrArg (·.registry.options) h.same

theorem shared_eq (h : Beside codes l k) : k.shared = l.shared := congrArg (·.shared) h.same

/-- Their sessions differ in lines. -/
theorem sessions_eq (h : Beside codes l k) (id : Nat) :
    k.registry.sessions[id]?.map Session.withoutLines =
      l.registry.sessions[id]?.map Session.withoutLines := by
  rw [← Registry.sessions_withoutLines, ← Registry.sessions_withoutLines]
  exact congrArg (·.registry.sessions[id]?) h.same

theorem session_eq (h : Beside codes l k) {id : Nat} {s : Session σ}
    (hs : l.registry.sessions[id]? = some s) :
    ∃ s', k.registry.sessions[id]? = some s' ∧ s'.withoutLines = s.withoutLines :=
  Option.map_eq_some_iff.mp ((h.sessions_eq id).trans (congrArg _ hs))

/-- A session changes in both, and what becomes of it differs in lines. -/
theorem setSession (h : Beside codes l k) {id : Nat} {old old' s s' : Session σ}
    (hold : l.registry.sessions[id]? = some old) (hold' : k.registry.sessions[id]? = some old')
    (hs : s.Settled) (hs' : s'.Settled) (hsame : s'.withoutLines = s.withoutLines) (shared : ω) :
    Beside codes (l.setSession id s shared) (k.setSession id s' shared) where
  ignoresNothing := h.ignoresNothing
  same := by
    rw [withoutLines_setSession, withoutLines_setSession, hsame, h.same]
    rfl
  settled := h.settled.setSession hold hs shared
  settled' := h.settled'.setSession hold' hs' shared

/-- **A check** finds the same in both, up to its reports. -/
theorem examine (he : e.IsLocal) (h : Beside codes l k) (view : FileView)
    (file config root : Path) :
    let run := l.examine e view file config root
    let run' := k.examine e view file config root
    run'.1 = run.1 ∧ Beside codes run.2 run'.2 := by
  obtain ⟨hfst, hsnd⟩ := h.settled.examine_withoutLines he view file config root
  obtain ⟨hfst', hsnd'⟩ := h.settled'.examine_withoutLines he view file config root
  rw [h.same, examine_ignoring] at hfst' hsnd'
  refine ⟨hfst'.symm.trans hfst, ?_, hsnd'.symm.trans (congrArg (ignoring codes) hsnd),
    (h.settled.examine he view file config root).1,
    (h.settled'.examine he view file config root).1⟩
  rw [options_examine]
  exact h.ignoresNothing

/-- **Telling** the same faults is the same but for the ignored codes. -/
theorem tell (h : Beside codes l k) {id : Nat} {s : Session σ}
    (hs : l.registry.sessions[id]? = some s) {p : Path} {found : List Diagnostic}
    (hd : ∀ d ∈ found, d.IsToldFrom s.host.snapshots p) (view : FileView) (node : Path) :
    let told := l.tell view id node found
    let told' := k.tell view id node found
    told'.1 = withoutCodes codes told.1 ∧ Beside codes told.2 told'.2 := by
  obtain ⟨s', hs', hsame⟩ := h.session_eq hs
  have hsettled := h.settled id s hs
  have hsettled' := h.settled' id s' hs'
  have htables : s'.host.snapshots.withoutLines = s.host.snapshots.withoutLines :=
    congrArg (·.host.snapshots) hsame
  obtain ⟨t, hnotes, htell⟩ := tell_eq hs hsettled.wellFormed hd view node
  obtain ⟨t', hnotes', htell'⟩ := tell_eq hs' hsettled'.wellFormed
    (fun d hm => (hd d hm).mono (SnapshotTable.keeps_of_withoutLines htables)) view node
  have hall : counted l.registry.options found = found :=
    LintOptions.filter_isIgnored h.ignoresNothing found
  have hsome : counted k.registry.options found =
      found.filter fun d => !codes.contains d.code := by
    rw [counted, h.options_eq]
    rfl
  simp only
  rw [htell, htell', hall, hsome]
  refine ⟨by rw [withoutCodes_map, SnapshotTable.linesOf_eq htables], ?_⟩
  rw [h.shared_eq]
  exact h.setSession hs hs' (hsettled.note hnotes) (hsettled'.note hnotes')
    (by rw [Session.withoutLines_note hnotes, Session.withoutLines_note hnotes', hsame]) l.shared

/-- **One check** of both: the same fails, and else the same is reported but for the ignored
codes. -/
theorem check (he : e.IsLocal) (h : Beside codes l k) (view : FileView)
    (file config root : Path) :
    let run := l.check e view file config root
    let run' := k.check e view file config root
    run'.1 = run.1.map (withoutCodes codes) ∧ Beside codes run.2 run'.2 := by
  obtain ⟨hfst, hbeside⟩ := h.examine he view file config root
  have hfound := (h.settled.examine he view file config root).2
  simp only at hfst hbeside hfound ⊢
  rw [check_eq, check_eq]
  generalize l.examine e view file config root = run at hfst hbeside hfound ⊢
  generalize k.examine e view file config root = run' at hfst hbeside ⊢
  obtain ⟨answer, l'⟩ := run
  obtain ⟨answer', k'⟩ := run'
  cases hfst
  cases answer with
  | error f => exact ⟨rfl, hbeside⟩
  | ok found =>
      cases found with
      | none => exact ⟨rfl, hbeside⟩
      | some found =>
          obtain ⟨id, kept⟩ := found
          obtain ⟨s, hs, htold⟩ := hfound id kept rfl
          obtain ⟨hreports, hafter⟩ := hbeside.tell hs htold view file
          exact ⟨congrArg _ hreports, hafter⟩

end Beside

/-! ### Visits -/

/-- What a visit of a file comes to: nothing if the file is outside of all projects, and else the
failure of its check or what the check reports. -/
def visit (e : Engine σ ω) (view : FileView) (file : Path) (l : Linter σ ω) :
    Option (Except LintError (List Report)) × Linter σ ω :=
  match projectOf view file with
  | none => (none, l)
  | some (config, root) =>
    let run := l.check e view file.normalize config root
    (some run.1, run.2)

/-- How it is told: a failure is a report on the file. -/
def toldOf (file : Path) : Option (Except LintError (List Report)) → List Report
  | none => []
  | some (.error f) => [.onNode file.normalize .error internalCode f.message]
  | some (.ok reports) => reports

theorem lintFile_eq_visit (e : Engine σ ω) (view : FileView) (file : Path) (l : Linter σ ω) :
    l.lintFile e view file =
      (toldOf file (l.visit e view file).1, (l.visit e view file).2) := by
  unfold lintFile visit projectOf
  simp only
  cases file.normalize.parent with
  | none => rfl
  | some dir =>
      rw [Option.bind_some]
      simp only
      cases findProjectConfig view dir with
      | none => rfl
      | some config =>
          rw [Option.map_some]
          simp only
          generalize l.check e view file.normalize config (config.parent.getD dir) = run
          obtain ⟨reports | f, l'⟩ := run <;> rfl

/-- **One visit** by both linters. -/
theorem Beside.visit (he : e.IsLocal) (h : Beside codes l k) (view : FileView) (file : Path) :
    let run := l.visit e view file
    let run' := k.visit e view file
    run'.1 = run.1.map (Except.map (withoutCodes codes)) ∧ Beside codes run.2 run'.2 := by
  unfold Linter.visit
  cases projectOf view file with
  | none => exact ⟨rfl, h⟩
  | some project =>
      obtain ⟨hreports, hafter⟩ := h.check he view file.normalize project.1 project.2
      exact ⟨congrArg some hreports, hafter⟩

/-! ### Runs -/

/-- The linter after a step, with any engine. -/
def advance (e : Engine σ ω) (view : FileView) (l : Linter σ ω) : Step → Linter σ ω
  | .visit file => (l.lintFile e view file).2
  | .release id file =>
    match l.registry.sessions[id]? with
    | none => l
    | some s =>
      let (_, s, shared) := s.release e file l.shared
      l.setSession id s shared

/-- The linter after some steps, each with the files as it sees them. -/
def advances (e : Engine σ ω) (l : Linter σ ω) (run : List (FileView × Step)) : Linter σ ω :=
  run.foldl (fun l c => l.advance e c.1 c.2) l

/-- **One step** of both linters. -/
theorem Beside.advance (he : e.IsLocal) (h : Beside codes l k) (view : FileView) (c : Step) :
    Beside codes (l.advance e view c) (k.advance e view c) := by
  cases c with
  | visit file =>
      simp only [Linter.advance, lintFile_eq_visit]
      exact (h.visit he view file).2
  | release id file =>
      simp only [Linter.advance]
      have hsessions := h.sessions_eq id
      cases hs : l.registry.sessions[id]? with
      | none =>
          rw [hs] at hsessions
          rw [Option.map_eq_none_iff.mp hsessions]
          exact h
      | some s =>
          obtain ⟨s', hs', hsame⟩ := h.session_eq hs
          have hrun := s.release_withoutLines e file l.shared
          rw [← hsame, s'.release_withoutLines e file l.shared] at hrun
          obtain ⟨-, hrest⟩ := Prod.ext_iff.mp hrun
          obtain ⟨hsession, hshared⟩ := Prod.ext_iff.mp hrest
          simp only [hs', h.shared_eq]
          rw [hshared]
          exact h.setSession hs hs' ((h.settled id s hs).release e file _)
            ((h.settled' id s' hs').release e file _) hsession _

/-- **A run** of both linters. -/
theorem Beside.advances (he : e.IsLocal) (h : Beside codes l k) (run : List (FileView × Step)) :
    Beside codes (l.advances e run) (k.advances e run) := by
  induction run generalizing l k with
  | nil => exact h
  | cons c rest ih => exact ih (h.advance he c.1 c.2)

/-- **Ignored codes filter reports and do nothing else**, if the engine is local.  Two linters
differ in the codes that they ignore, some and none, and make the same visits and releases, while
the files change in any way.

* At every point of the run they have the same sessions, with the same snapshots, texts, faults
  and resolutions, and their engines share the same.  They can differ in whether a snapshot keeps
  the lines of its text yet; if it does, these are the lines of the text.
* A visit outside of all projects reports nothing in either; a visit that fails reports the
  failure in both, whatever its code is; and all others report the same but for the ignored
  codes, in the same order and at the same places. -/
theorem ignored_only_filtered (he : e.IsLocal) (options : LintOptions) (codes : List Nat)
    (shared : ω) (run : List (FileView × Step)) :
    let all := advances e (new { options with ignoreCodes := [] } shared) run
    let kept := advances e (new { options with ignoreCodes := codes } shared) run
    kept.withoutLines = all.withoutLines.ignoring codes ∧ all.Settled ∧ kept.Settled ∧
      ∀ view file,
        match (all.visit e view file).1 with
        | none => (all.lintFile e view file).1 = [] ∧ (kept.lintFile e view file).1 = []
        | some (.error f) =>
          let failure := [Report.onNode file.normalize .error internalCode f.message]
          (all.lintFile e view file).1 = failure ∧ (kept.lintFile e view file).1 = failure
        | some (.ok reports) =>
          (all.lintFile e view file).1 = reports ∧
            (kept.lintFile e view file).1 = withoutCodes codes reports := by
  intro all kept
  have h : Beside codes all kept := (beside_new options codes shared).advances he run
  refine ⟨h.same, h.settled, h.settled', fun view file => ?_⟩
  have hvisit := (h.visit he view file).1
  rw [lintFile_eq_visit, lintFile_eq_visit, hvisit]
  cases (all.visit e view file).1 with
  | none => exact ⟨rfl, rfl⟩
  | some answer =>
      cases answer with
      | error f => exact ⟨rfl, rfl⟩
      | ok reports => exact ⟨rfl, rfl⟩

/-! ### Visits that can be run -/

/-- The linter whose only session has just been made. -/
def opened (e : Engine σ ω) (view : FileView) (options : LintOptions) (project : Path × Path)
    (config : ProjectConfig) (engine : σ) (shared : ω) : Linter σ ω where
  registry := (Registry.new options).addSession
    { configPath := project.1.normalize
      host := Registry.newHost e view (Registry.new options : Registry σ) project.2 config
      engine }
  shared

/-- The first visit of a new linter makes the session of its project. -/
theorem advances_first {view : FileView} {file : Path} {project : Path × Path}
    (hp : projectOf view file = some project) {config : ProjectConfig}
    (hload : ProjectConfig.load view project.1.normalize = .ok config) {options : LintOptions}
    {engine : σ} {shared shared' : ω} (hcreate : e.create (Registry.newHost e view
      (Registry.new options : Registry σ) project.2 config) shared = (.ok engine, shared')) :
    advances e (new options shared) [(view, .visit file)] =
      ((opened e view options project config engine shared').visit e view file).2 := by
  have hnew : (Registry.new options).session e view project.1 project.2 shared =
      (.ok 0, (opened e view options project config engine shared').registry, shared') := by
    obtain ⟨id, hid, -⟩ | ⟨-, ⟨f, hf, -⟩ | ⟨config', hload', ⟨f, hf, -⟩ | ⟨engine', he, hrun⟩⟩⟩ :=
      Registry.session_cases e view project.1 project.2 (Registry.new options) shared
    · cases hid
    · cases hload.symm.trans hf
    · cases hload.symm.trans hload'
      rw [hcreate] at hf
      cases hf
    · cases hload.symm.trans hload'
      rw [hcreate] at he hrun
      cases he
      exact hrun
  have hopened : (opened e view options project config engine shared').registry.session e view
      project.1 project.2 shared' =
      (.ok 0, (opened e view options project config engine shared').registry, shared') := by
    rw [Registry.session, opened, Registry.addSession]
    simp only [Table.get?_insert, if_true]
    rfl
  change ((new options shared).lintFile e view file).2 = _
  rw [lintFile_eq_visit]
  unfold visit check
  rw [hp]
  simp only
  rw [show (new options shared : Linter σ ω).registry = Registry.new options from rfl,
    show (new options shared : Linter σ ω).shared = shared from rfl, hnew,
    show (opened e view options project config engine shared').shared = shared' from rfl, hopened]

/-- The small project reports a reference that leads nowhere, unless its code is ignored. -/
theorem ignored_smallProject :
    let e := importEngine none
    let options : LintOptions := { libDir := some (.ofString "/lib") }
    let run := [(smallProject.view, Step.visit (.ofString "/p/c.ts"))]
    let all := advances e (new { options with ignoreCodes := [] } ()) run
    let kept := advances e (new { options with ignoreCodes := [2307] } ()) run
    e.IsLocal ∧ kept.withoutLines = all.withoutLines.ignoring [2307] ∧
      (all.lintFile e smallProject.view (.ofString "/p/a.ts")).1 =
        [{ file := .ofString "/p/a.ts", category := .error, code := 2307
           message := "Cannot find module './b' or its corresponding type declarations."
           location := .range ⟨1, 7⟩ ⟨1, 12⟩ }] ∧
      (kept.lintFile e smallProject.view (.ofString "/p/a.ts")).1 = [] := by
  intro e options run all kept
  have he := importEngine_isLocal none
  obtain ⟨hsame, -, -, hvisits⟩ := ignored_only_filtered he options [2307] () run
  have hp : projectOf smallProject.view (.ofString "/p/c.ts") =
      some (.ofString "/p/tsconfig.json", .ofString "/p") := by decide +kernel
  have hall : all = _ := advances_first hp (Registry.load_bareConfig rfl) rfl
  have hvisit : (all.visit e smallProject.view (.ofString "/p/a.ts")).1 =
      some (.ok [{ file := .ofString "/p/a.ts", category := .error, code := 2307
                   message := "Cannot find module './b' or its corresponding type declarations."
                   location := .range ⟨1, 7⟩ ⟨1, 12⟩ }]) := by
    rw [hall]
    decide +kernel
  have hreports := hvisits smallProject.view (.ofString "/p/a.ts")
  rw [hvisit] at hreports
  exact ⟨he, hsame, hreports.1, hreports.2⟩

/-- An engine that finds faults in one source that two others share. -/
def pointing : Engine Unit Unit where
  bundledLibDir := none
  create _ _ := (.ok (), ())
  diagnostics _ file := fun (h, s, shared) =>
    let fault code start := Diagnostic.located .error code "m" (.ofString "/p/b.ts") start 1
    (.ok (if file = .ofString "/p/a.ts" then [fault 1 0] else [fault 2 1]), h, s, shared)
  release _ m := m

/-- A project of three sources, the shared one with a text. -/
def sharing (text : String) : MemoryTree := .ofFiles [
  (.ofString "/p/tsconfig.json", "{}".toList), (.ofString "/p/a.ts", []),
  (.ofString "/p/b.ts", text.toList), (.ofString "/p/c.ts", [])]

/-- **An ignored report can move another one.**  The first report reads the shared source, which
then changes, and the second one is placed in the text that was read; if the first one is ignored,
the second one is placed in the new text. -/
theorem ignored_unread :
    let run := [((sharing "ab").view, Step.visit (.ofString "/p/a.ts"))]
    let all := advances pointing (new { ignoreCodes := [] } ()) run
    let kept := advances pointing (new { ignoreCodes := [1] } ()) run
    let placed (first last : Position) : Report :=
      ⟨.ofString "/p/b.ts", .error, 2, "m", .range first last⟩
    let later := (sharing "\nx").view
    (all.lintFile pointing later (.ofString "/p/c.ts")).1 = [placed ⟨1, 1⟩ ⟨1, 2⟩] ∧
      (kept.lintFile pointing later (.ofString "/p/c.ts")).1 = [placed ⟨2, 0⟩ ⟨2, 1⟩] ∧
      (kept.lintFile pointing later (.ofString "/p/c.ts")).1 ≠
        withoutCodes [1] (all.lintFile pointing later (.ofString "/p/c.ts")).1 := by
  intro run all kept placed later
  have hp : projectOf (sharing "ab").view (.ofString "/p/a.ts") =
      some (.ofString "/p/tsconfig.json", .ofString "/p") := by decide +kernel
  have hload : ProjectConfig.load (sharing "ab").view (Path.ofString "/p/tsconfig.json").normalize =
      .ok Registry.bareConfig := Registry.load_bareConfig rfl
  have hall : (all.lintFile pointing later (.ofString "/p/c.ts")).1 = [placed ⟨1, 1⟩ ⟨1, 2⟩] := by
    simp only [all, run]
    rw [advances_first hp hload rfl]
    decide +kernel
  have hkept : (kept.lintFile pointing later (.ofString "/p/c.ts")).1 =
      [placed ⟨2, 0⟩ ⟨2, 1⟩] := by
    simp only [kept, run]
    rw [advances_first hp hload rfl]
    decide +kernel
  refine ⟨hall, hkept, ?_⟩
  rw [hall, hkept]
  decide

end Linter

end ImportLint
