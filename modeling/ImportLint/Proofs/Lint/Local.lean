import ImportLint.Proofs.Lint.Visits

/-!
# Linting — local engines

An engine that tells faults of the file it is asked about alone, and has read that file through
its host when it does, leaves nothing to be read when the faults are told.  All that telling them
does is to note lines, and those are not seen by whoever asks for a text.

* `Engine.IsLocal`: such an engine; `importEngine_isLocal`.
* `Session.Settled`: the texts of all faults that a session keeps are known.
* `Session.withoutLines`: a session without the lines that its snapshots keep.
* `Settled.diagnostics_withoutLines`, `release_withoutLines`: lines make no difference to it.
-/

namespace ImportLint

variable {σ ω : Type}

/-- The host without the lines that its snapshots keep. -/
def Host.withoutLines (h : Host) : Host := { h with snapshots := h.snapshots.withoutLines }

@[simp] theorem Host.withoutLines_withoutLines (h : Host) :
    h.withoutLines.withoutLines = h.withoutLines := by
  rw [withoutLines, withoutLines, SnapshotTable.withoutLines_withoutLines]

/-! ### Local engines -/

/-- An engine that tells faults of the file it is asked about alone, and has read that file if it
tells of some bytes of it.  It does not lose the texts that its host has read, and cannot tell
whether lines have been asked for. -/
structure Engine.IsLocal (e : Engine σ ω) : Prop where
  wellFormed : ∀ (view : FileView) (file : Path) (m : Host × σ × ω), m.1.snapshots.WellFormed →
    (e.diagnostics view file m).2.1.snapshots.WellFormed
  keeps : ∀ (view : FileView) (file : Path) (m : Host × σ × ω), m.1.snapshots.WellFormed →
    m.1.snapshots.Keeps (e.diagnostics view file m).2.1.snapshots
  tells : ∀ (view : FileView) (file : Path) (m : Host × σ × ω) (ds : List Diagnostic),
    m.1.snapshots.WellFormed → (e.diagnostics view file m).1 = .ok ds →
      ∀ d ∈ ds, d.IsToldFrom (e.diagnostics view file m).2.1.snapshots file
  unseen : ∀ (view : FileView) (file : Path) (h : Host) (s : σ) (shared : ω),
    h.snapshots.WellFormed →
      let call := e.diagnostics view file (h, s, shared)
      let call' := e.diagnostics view file (h.withoutLines, s, shared)
      call'.1 = call.1 ∧ call'.2.1.withoutLines = call.2.1.withoutLines ∧ call'.2.2 = call.2.2

namespace ImportCheck

theorem source_withoutLines (view : FileView) (file : Path) (h : Host) :
    (source view file).run h.withoutLines =
      (((source view file).run h).1, ((source view file).run h).2.withoutLines) := by
  rw [source_run, source_run, Host.snapshot_run, Host.snapshot_run, Host.withoutLines,
    SnapshotTable.get_withoutLines]
  generalize h.snapshots.get view file = got
  obtain ⟨opened, t⟩ := got
  cases opened with
  | error e => rfl
  | ok id =>
      cases id with
      | none => rfl
      | some id =>
          simp only
          rw [Host.text_run, Host.text_run, SnapshotTable.text_withoutLines,
            SnapshotTable.path_withoutLines]
          simp only
          cases (t.text view id).1 <;> rfl

theorem checkLibrary_withoutLines (view : FileView) (h : Host) (s : State) :
    checkLibrary view h.withoutLines s = checkLibrary view h s := rfl

/-- **A call** does not look at lines. -/
theorem diagnostics_withoutLines (view : FileView) (file : Path) (h : Host) (s : State) :
    diagnostics view file h.withoutLines s =
      ((diagnostics view file h s).1, (diagnostics view file h s).2.1.withoutLines,
        (diagnostics view file h s).2.2) := by
  rw [diagnostics_eq, diagnostics_eq, source_withoutLines]
  generalize (source view file).run h = read
  obtain ⟨read, h'⟩ := read
  cases read with
  | error e => rfl
  | ok read =>
      obtain ⟨path, text⟩ := read
      simp only
      rw [checkLibrary_withoutLines]
      generalize checkLibrary view h' s = looked
      obtain ⟨library, s'⟩ := looked
      cases library with
      | error e => rfl
      | ok library =>
          simp only
          rw [Host.withoutLines, checkText_withSnapshots, Host.withoutLines, snapshots_checkText]

end ImportCheck

/-- **The engine that checks references** is local. -/
theorem importEngine_isLocal (bundled : Option Path) : (importEngine bundled).IsLocal where
  wellFormed view file m hw := by
    obtain ⟨h, s, _⟩ := m
    change (ImportCheck.diagnostics view file h s).2.1.snapshots.WellFormed
    rw [ImportCheck.snapshots_diagnostics view file hw]
    exact (hw.fetch view file).2.1
  keeps view file m hw := by
    obtain ⟨h, s, _⟩ := m
    change h.snapshots.Keeps (ImportCheck.diagnostics view file h s).2.1.snapshots
    rw [ImportCheck.snapshots_diagnostics view file hw]
    exact fun p text => hw.known_fetch_of_known view file
  tells view file m ds hw hds d hd := by
    obtain ⟨h, s, _⟩ := m
    change d.IsToldFrom (ImportCheck.diagnostics view file h s).2.1.snapshots file
    obtain ⟨text, hfetch, habout⟩ := ImportCheck.isAbout_of_diagnostics hw hds
    rw [ImportCheck.snapshots_diagnostics view file hw]
    exact (habout d hd).isToldFrom (hw.known_of_fetch hfetch)
  unseen view file h s _ _ := by
    simp only [importEngine]
    rw [ImportCheck.diagnostics_withoutLines]
    exact ⟨rfl, Host.withoutLines_withoutLines _, rfl⟩

/-! ### Settled sessions -/

namespace Session

variable {e : Engine σ ω} {s s' : Session σ}

/-- The texts of all faults that a session keeps are known, and the lines that its snapshots keep
are those of their texts. -/
structure Settled (s : Session σ) : Prop where
  wellFormed : s.host.snapshots.WellFormed
  told : ∀ (p : Path) kept, s.found.get? p.normalize.components = some kept →
    ∀ d ∈ kept.value, d.IsToldFrom s.host.snapshots p

/-- **A call keeps a session settled**, and what it answers can be told from what is known. -/
theorem Settled.diagnostics (he : e.IsLocal) (hs : s.Settled) (view : FileView) (file : Path)
    (shared : ω) :
    let run := s.diagnostics e view file shared
    run.2.1.Settled ∧ ∀ kept, run.1 = .ok kept →
      ∀ d ∈ kept.value, d.IsToldFrom run.2.1.host.snapshots file := by
  have hw := he.wellFormed view file.normalize (s.host, s.engine, shared) hs.wellFormed
  have hkeeps := he.keeps view file.normalize (s.host, s.engine, shared) hs.wellFormed
  obtain ⟨known, hk, hrun⟩ | ⟨-, ⟨f, -, hrun⟩ | ⟨fresh, hfresh, hrun⟩⟩ :=
    ask_cases e view file s shared
  · simp only [hrun]
    exact ⟨hs, fun kept h => by cases h; exact hs.told file known hk⟩
  · simp only [hrun]
    exact ⟨⟨hw, fun p kept hk d hd => (hs.told p kept hk d hd).mono hkeeps⟩,
      fun kept h => nomatch h⟩
  · simp only [hrun]
    have htold : ∀ p : Path, p.normalize = file.normalize → ∀ d ∈ fresh, d.IsToldFrom
        (e.diagnostics view file.normalize (s.host, s.engine, shared)).2.1.snapshots p := by
      intro p hp d hd bytes start length hspan
      obtain ⟨hbytes, hknown⟩ :=
        he.tells view file.normalize _ fresh hs.wellFormed hfresh d hd bytes start length hspan
      exact ⟨hbytes.trans ((Path.normalize_normalize file).trans hp.symm), hknown⟩
    refine ⟨⟨hw, fun p kept hk => ?_⟩, fun kept h => ?_⟩
    · rw [Table.get?_insert] at hk
      split at hk
      · next hsame =>
        cases hk
        exact htold p (Path.Same.eq_of_normalize hsame)
      · exact fun d hd => (hs.told p kept hk d hd).mono hkeeps
    · cases h
      exact htold file rfl

/-- **A release keeps a session settled**: it drops the faults of a file with its text. -/
theorem Settled.release (hs : s.Settled) (e : Engine σ ω) (file : Path) (shared : ω) :
    (s.release e file shared).2.1.Settled := by
  obtain ⟨-, hw, hother⟩ := hs.wellFormed.dispose file.normalize
  refine ⟨hw, fun p kept hk d hd bytes start length hspan => ?_⟩
  change (s.found.erase file.normalize.components).get? p.normalize.components = some kept at hk
  rw [Table.get?_erase] at hk
  split at hk
  · cases hk
  · next hne =>
    obtain ⟨hbytes, text, hknown⟩ := hs.told p kept hk d hd bytes start length hspan
    refine ⟨hbytes, text, (hother bytes fun e => hne ?_).trans hknown⟩
    rw [← hbytes, e, Path.normalize_normalize]

/-- **Lines that are noted keep a session settled.** -/
theorem Settled.note (hs : s.Settled) {t : SnapshotTable} (ht : s.host.snapshots.Notes t) :
    Settled { s with host := { s.host with snapshots := t } } where
  wellFormed := ht.wellFormed hs.wellFormed
  told p kept hk d hd := (hs.told p kept hk d hd).mono (SnapshotTable.keeps_of_withoutLines ht.same)

/-! ### Sessions without lines -/

/-- The session without the lines that its snapshots keep. -/
def withoutLines (s : Session σ) : Session σ := { s with host := s.host.withoutLines }

@[simp] theorem withoutLines_withoutLines (s : Session σ) :
    s.withoutLines.withoutLines = s.withoutLines := by
  rw [withoutLines, withoutLines, Host.withoutLines_withoutLines]

/-- A session that has opened no snapshots keeps no lines. -/
theorem withoutLines_of_empty (h : s.host.snapshots = {}) : s.withoutLines = s := by
  have hempty : ({} : SnapshotTable).withoutLines = {} := by
    rw [SnapshotTable.withoutLines, Array.map_empty]
  rw [withoutLines, Host.withoutLines, h, hempty, ← h]

theorem withoutLines_note {t : SnapshotTable} (ht : s.host.snapshots.Notes t) :
    ({ s with host := { s.host with snapshots := t } } : Session σ).withoutLines =
      s.withoutLines := by
  rw [withoutLines, withoutLines, Host.withoutLines, Host.withoutLines, ht.same]

/-- **A call** does not depend on lines. -/
theorem Settled.diagnostics_withoutLines (he : e.IsLocal) (hs : s.Settled) (view : FileView)
    (file : Path) (shared : ω) :
    let run := s.diagnostics e view file shared
    let run' := s.withoutLines.diagnostics e view file shared
    run'.1 = run.1 ∧ run'.2.1.withoutLines = run.2.1.withoutLines ∧ run'.2.2 = run.2.2 := by
  have hunseen := he.unseen view file.normalize s.host s.engine shared hs.wellFormed
  cases hk : s.found.get? file.normalize.components with
  | some known =>
      have hk' : s.withoutLines.found.get? file.normalize.components = some known := hk
      simp only [Session.diagnostics, hk, hk', withoutLines_withoutLines, true_and]
  | none =>
      simp only [Session.diagnostics, hk, withoutLines] at hunseen ⊢
      generalize e.diagnostics view file.normalize (s.host, s.engine, shared) = call at hunseen ⊢
      generalize e.diagnostics view file.normalize (s.host.withoutLines, s.engine, shared) = call'
        at hunseen ⊢
      obtain ⟨answer, host, engine, shared⟩ := call
      obtain ⟨answer', host', engine', shared'⟩ := call'
      obtain ⟨rfl, hhost, hrest⟩ := hunseen
      cases hrest
      cases answer' with
      | error f => exact ⟨rfl, by rw [hhost], rfl⟩
      | ok fresh => exact ⟨rfl, by rw [hhost], rfl⟩

/-- **A release** does not depend on lines. -/
theorem release_withoutLines (e : Engine σ ω) (file : Path) (s : Session σ) (shared : ω) :
    s.withoutLines.release e file shared =
      ((s.release e file shared).1, (s.release e file shared).2.1.withoutLines,
        (s.release e file shared).2.2) := by
  have hdispose := s.host.snapshots.dispose_withoutLines file.normalize
  have hrun : ∀ h : Host, (Host.releaseSnapshot file.normalize).run h =
      ((h.snapshots.dispose file.normalize).1,
        { h with snapshots := (h.snapshots.dispose file.normalize).2 }) := fun _ => rfl
  unfold Session.release
  simp only [hrun, withoutLines, Host.withoutLines, hdispose]

end Session

end ImportLint
