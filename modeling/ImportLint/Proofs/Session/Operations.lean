import ImportLint.Proofs.Checking.Verdict
import ImportLint.Proofs.Files.Handles
import ImportLint.Proofs.Session.Findings

/-!
# Sessions — all that can be asked of them

A session is asked for the faults of files and made to forget files, and its host is open to
requests of its own.  What matters of an engine is that it does nothing to the host but ask it.

* `Host.Operation`, `Host.operate`: what a host is asked.
* `Host.sameSettings_operate`, `wellFormed_operate`: what no request changes.
* `Engine.OnlyAsks`: an engine that does nothing to its host but ask it, such as `importEngine`.
* `Session.Operation`, `Session.operate`: what a session is asked.
* `ImportCheck.Faithful.operate`: while the files stay as they are, what a session remembers is
  what the files are, whatever it is asked.
-/

namespace ImportLint

/-! ### Requests to a host -/

namespace Host

/-- What a host is asked. -/
inductive Operation where
  | references (call : Call)
  | scriptFiles (disk : Disk)
  | snapshots (request : SnapshotTable.Request)

/-- The host after a request, whether it is answered or fails. -/
def operate (view : FileView) (h : Host) : Operation → Host
  | .references call => call.step view h
  | .scriptFiles disk => ((scriptFiles view disk).run h).2
  | .snapshots request => ((withSnapshots (·.answer view request)).run h).2

variable (view : FileView) (h : Host)

theorem scriptFiles_run (disk : Disk) :
    (scriptFiles view disk).run h =
      match h.fileNames with
      | some names => (names, h)
      | none =>
        (h.config.scriptFiles view disk,
          { h with fileNames := some (h.config.scriptFiles view disk) }) := by
  unfold scriptFiles
  rw [stateRun_bind, show (get : StateM Host Host).run h = (h, h) from rfl]
  cases h.fileNames <;> rfl

/-- The files of a project are kept apart from all else. -/
theorem exists_operate_scriptFiles (disk : Disk) :
    ∃ names, h.operate view (.scriptFiles disk) = { h with fileNames := names } := by
  rw [operate, scriptFiles_run]
  cases h.fileNames with
  | some names => exact ⟨h.fileNames, rfl⟩
  | none => exact ⟨_, rfl⟩

theorem sameSettings_operate (op : Operation) : SameSettings h (h.operate view op) := by
  cases op with
  | references call =>
      cases call with
      | one specifier file => exact sameSettings_resolve view specifier file h
      | all file specifiers => exact sameSettings_resolveAll view file specifiers h
  | scriptFiles disk =>
      obtain ⟨names, hn⟩ := exists_operate_scriptFiles view h disk
      rw [hn]
      exact ⟨rfl, rfl⟩
  | snapshots request => exact ⟨rfl, rfl⟩

theorem wellFormed_operate (hw : h.snapshots.WellFormed) (op : Operation) :
    (h.operate view op).snapshots.WellFormed := by
  cases op with
  | references call =>
      cases call with
      | one specifier file =>
          change ((resolve view specifier file).run h).2.snapshots.WellFormed
          rwa [snapshots_resolve]
      | all file specifiers =>
          change ((resolveAll view file specifiers).run h).2.snapshots.WellFormed
          rwa [snapshots_resolveAll]
  | scriptFiles disk =>
      obtain ⟨names, hn⟩ := exists_operate_scriptFiles view h disk
      rwa [hn]
  | snapshots request => exact hw.answer view request

end Host

/-! ### Engines -/

section Engine

variable {σ ω : Type}

/-- An engine does nothing to its host but ask it. -/
def Engine.OnlyAsks (e : Engine σ ω) : Prop :=
  ∀ view file (call : Host × σ × ω), ∃ ops : List Host.Operation,
    (e.diagnostics view file call).2.1 = ops.foldl (Host.operate view) call.1

/-- What all requests keep of a host, such an engine keeps. -/
theorem Engine.OnlyAsks.keeps {e : Engine σ ω} (he : e.OnlyAsks) {view : FileView}
    {P : Host → Prop} (hP : ∀ h op, P h → P (h.operate view op)) (file : Path)
    (call : Host × σ × ω) (h : P call.1) : P (e.diagnostics view file call).2.1 := by
  obtain ⟨ops, hops⟩ := he view file call
  rw [hops]
  exact List.foldlRecOn ops _ h fun h hh op _ => hP h op hh

/-- The checking of a text asks for its references alone. -/
theorem exists_operate_checkText (view : FileView) (path : Path) (text : Text) (h : Host) :
    ∃ ops : List Host.Operation,
      ((ImportCheck.checkText view path text).run h).2 = ops.foldl (Host.operate view) h := by
  rw [ImportCheck.checkText_run]
  cases ModuleKind.ofPath path with
  | none => exact ⟨[], rfl⟩
  | some kind =>
      let specifiers := ((SourceFacts.ofText kind text).references.filter
        ImportCheck.isChecked).map Reference.specifier
      refine ⟨[.references (.all path specifiers)], ?_⟩
      change _ = ((Host.resolveAll view path specifiers).run h).2
      simp only
      generalize (Host.resolveAll view path specifiers).run h = run
      obtain ⟨found, h'⟩ := run
      cases found <;> rfl

/-- The engine that checks references asks for the text of a file, and for its references. -/
theorem onlyAsks_importEngine (bundled : Option Path) : (importEngine bundled).OnlyAsks := by
  intro view file ⟨h, s, _⟩
  change ∃ ops : List Host.Operation,
    (ImportCheck.diagnostics view file h s).2.1 = ops.foldl (Host.operate view) h
  let opened := h.operate view (.snapshots (.get file))
  unfold ImportCheck.diagnostics
  rw [ImportCheck.run_run, Host.snapshot_run]
  cases (h.snapshots.get view file).1 with
  | error f => exact ⟨[.snapshots (.get file)], rfl⟩
  | ok id =>
      cases id with
      | none => exact ⟨[.snapshots (.get file)], rfl⟩
      | some id =>
          let read := opened.operate view (.snapshots (.ask id .text))
          simp only
          rw [ImportCheck.run_run, Host.text_run]
          cases ((h.snapshots.get view file).2.text view id).1 with
          | error f => exact ⟨[.snapshots (.get file), .snapshots (.ask id .text)], rfl⟩
          | ok text =>
              simp only
              generalize ImportCheck.checkLibrary view _ s = looked
              obtain ⟨library, s'⟩ := looked
              cases library with
              | error f => exact ⟨[.snapshots (.get file), .snapshots (.ask id .text)], rfl⟩
              | ok library =>
                  obtain ⟨ops, hops⟩ := exists_operate_checkText view
                    (opened.snapshots.snapshot id).path text read
                  exact ⟨.snapshots (.get file) :: .snapshots (.ask id .text) :: ops, hops⟩

end Engine

/-! ### Requests to a session -/

namespace Session

variable {σ ω : Type}

/-- What a session is asked.  `check` asks its engine alone, and the session keeps nothing of the
answer. -/
inductive Operation where
  | diagnostics (file : Path)
  | release (file : Path)
  | check (file : Path)
  | host (op : Host.Operation)

/-- The session after a request, whether it is answered or fails, and what engines share. -/
def operate (e : Engine σ ω) (view : FileView) (s : Session σ) (shared : ω) :
    Operation → Session σ × ω
  | .diagnostics file => (s.diagnostics e view file shared).2
  | .release file => (s.release e file shared).2
  | .check file =>
    let (_, host, engine, shared) := e.diagnostics view file (s.host, s.engine, shared)
    ({ s with host, engine }, shared)
  | .host op => ({ s with host := s.host.operate view op }, shared)

variable {e : Engine σ ω} {view : FileView} {s : Session σ} {shared : ω}

/-- What all requests keep of a host, the requests to its session keep. -/
theorem operate_keeps (he : e.OnlyAsks) {P : Host → Prop}
    (hP : ∀ h op, P h → P (h.operate view op)) (h : P s.host) (op : Operation) :
    P (s.operate e view shared op).1.host := by
  cases op with
  | diagnostics file =>
      have hcall := he.keeps hP file.normalize (s.host, s.engine, shared) h
      rcases ask_cases e view file s shared with ⟨known, -, hrun⟩ |
          ⟨-, ⟨f, -, hrun⟩ | ⟨fresh, -, hrun⟩⟩
      · rw [operate, hrun]
        exact h
      · rw [operate, hrun]
        exact hcall
      · rw [operate, hrun]
        exact hcall
  | release file => exact hP s.host (.snapshots (.dispose file.normalize)) h
  | check file => exact he.keeps hP file (s.host, s.engine, shared) h
  | host op => exact hP s.host op h

theorem configPath_operate (op : Operation) :
    (s.operate e view shared op).1.configPath = s.configPath := by
  cases op with
  | diagnostics file =>
      rcases ask_cases e view file s shared with ⟨known, -, hrun⟩ |
          ⟨-, ⟨f, -, hrun⟩ | ⟨fresh, -, hrun⟩⟩
      · rw [operate, hrun]
      · rw [operate, hrun]
      · rw [operate, hrun]
  | release file => rfl
  | check file => rfl
  | host op => rfl

/-- What a request makes of the table of faults, and how many lists have been made then. -/
theorem found_operate (e : Engine σ ω) (view : FileView) (s : Session σ) (shared : ω)
    (op : Operation) :
    let s' := (s.operate e view shared op).1
    (s'.found = s.found ∧ s'.made = s.made) ∨
      (∃ file kept, op = .diagnostics file ∧ s.found.get? file.normalize.components = none ∧
        kept.id = s.made ∧ s'.found = s.found.insert file.normalize.components kept ∧
        s'.made = s.made + 1) ∨
      ∃ file, op = .release file ∧ s'.found = s.found.erase file.normalize.components ∧
        s'.made = s.made := by
  cases op with
  | diagnostics file =>
      rcases ask_cases e view file s shared with ⟨known, -, hrun⟩ |
          ⟨hnone, ⟨f, -, hrun⟩ | ⟨fresh, -, hrun⟩⟩
      · rw [operate, hrun]
        exact Or.inl ⟨rfl, rfl⟩
      · rw [operate, hrun]
        exact Or.inl ⟨rfl, rfl⟩
      · rw [operate, hrun]
        exact Or.inr (Or.inl ⟨file, _, rfl, hnone, rfl, rfl, rfl⟩)
  | release file => exact Or.inr (Or.inr ⟨file, rfl, rfl, rfl⟩)
  | check file => exact Or.inl ⟨rfl, rfl⟩
  | host op => exact Or.inl ⟨rfl, rfl⟩

end Session

/-! ### Requests while the files stay as they are -/

namespace SnapshotTable

theorem Reliable.of_known_eq {t t' : SnapshotTable} {view : FileView} (hr : t.Reliable view)
    (h : ∀ p, t'.known p = t.known p) : t'.Reliable view := fun p => by
  rw [h]
  exact hr p

/-- **What is known of files that stay as they are** is what they are, whatever is asked. -/
theorem Reliable.answer {t : SnapshotTable} {view : FileView} (hr : t.Reliable view)
    (hw : t.WellFormed) (r : Request) : (t.answer view r).2.Reliable view := by
  have heffect := t.answer_effect view r
  generalize (t.answer view r).2 = t' at heffect ⊢
  induction heffect with
  | nothing => exact hr
  | @enter p _ hnone hfile =>
      intro q
      rw [hw.known_enter]
      split
      · next e => simp only [lookUp, e, hfile]
      · exact hr q
  | @drop p id _ hid =>
      have hdrop : (t.dispose p).2 = t.drop p id := by
        simp only [SnapshotTable.dispose, hid]
        rfl
      exact hdrop ▸ hr.dispose hw p
  | @read id _ text _ _ hnone hread =>
      intro q
      by_cases hid : t.current.get? q.normalize.components = some id
      · -- what is read is what was to be read
        have hknown : t.known q = some none := by rw [known, hid, Option.map_some, hnone]
        have hread : readUp view q.normalize = (.ok (some text), some (some text)) := by
          rw [readUp, ← hw.path_eq hid, hread]
        rw [hw.known_load hid, if_pos rfl, ← hr q, hknown, lookUp, lookUp, hread]
      · have hknown : (t.load id (some text)).known q = t.known q := by
          rw [known, known]
          change (t.current.get? q.normalize.components).map _ = _
          cases hq : t.current.get? q.normalize.components with
          | none => rfl
          | some id' =>
              have hne : id' ≠ id := by
                intro e
                exact hid (e ▸ hq)
              rw [Option.map_some, Option.map_some, snapshot_load_of_ne t hne]
        rw [hknown]
        exact hr q
  | note _ _ ih =>
      exact ih.of_known_eq (known_eq (withoutLines_note ..))

end SnapshotTable

namespace ImportCheck

variable {view : FileView} {origin : Host} {s : Session.Checking}

theorem Faithful.hostOperate (hc : view.Coherent) {h : Host} {t : State}
    (hf : Faithful view origin h t) (op : Host.Operation) :
    Faithful view origin (h.operate view op) t := by
  have hsettings := hf.settings.trans (Host.sameSettings_operate view h op)
  have hw := Host.wellFormed_operate view h hf.wellFormed op
  cases op with
  | references call =>
      have hsnapshots : (call.step view h).snapshots = h.snapshots := by
        cases call with
        | one specifier file => exact Host.snapshots_resolve view specifier file h
        | all file specifiers => exact Host.snapshots_resolveAll view file specifiers h
      exact ⟨hf.host.step hc call, hsettings, hw, hsnapshots ▸ hf.reliable, hf.library⟩
  | scriptFiles disk =>
      obtain ⟨names, hn⟩ := Host.exists_operate_scriptFiles view h disk
      rw [hn]
      exact ⟨{ hf.host with }, ⟨hf.settings.config, hf.settings.libDir⟩, hf.wellFormed,
        hf.reliable, hf.library⟩
  | snapshots request => exact hf.withSnapshots hw (hf.reliable.answer hf.wellFormed request)

/-- **Whatever a session is asked**, what it remembers is what the files are. -/
theorem Faithful.operate (hc : view.Coherent) (hf : Faithful view origin s.host s.engine)
    (bundled : Option Path) (op : Session.Operation) :
    Faithful view origin (s.operate (importEngine bundled) view () op).1.host
      (s.operate (importEngine bundled) view () op).1.engine := by
  cases op with
  | diagnostics file =>
      have hcall := (diagnostics_verdict hc hf file.normalize).2
      rcases Session.diagnostics_cases bundled view file s with ⟨known, -, hrun⟩ |
          ⟨-, ⟨f, -, hrun⟩ | ⟨fresh, -, hrun⟩⟩
      · rw [Session.operate, hrun]
        exact hf
      · rw [Session.operate, hrun]
        exact hcall
      · rw [Session.operate, hrun]
        exact hcall
  | release file => exact hf.hostOperate hc (.snapshots (.dispose file.normalize))
  | check file => exact (diagnostics_verdict hc hf file).2
  | host op => exact hf.hostOperate hc op

end ImportCheck

end ImportLint
