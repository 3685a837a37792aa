import ImportLint.Proofs.Resolution.Order
import ImportLint.Session.Host

/-!
# Sessions — single requests

What one request makes of a host, told without the monad that requests run in.

* `Host.resolve_run`, `Host.resolveAll_cons`: the run of a request for references.
* `Host.SameSettings`: requests leave the settings of a host alone, also those that fail.
* `Host.resolveAll_withSnapshots`: requests for references neither look at its snapshots nor change
  them.
-/

namespace ImportLint.Host

/-- Asking for a reference, with the kept answers in front. -/
theorem resolve_run (view : FileView) (specifier : Text) (file : Path) (h : Host) :
    (resolve view specifier file).run h =
      match h.resolutions.get? (.new (directoryOf file) specifier) with
      | some kept => (.ok kept, { h with resolutions := h.resolutions.countHit })
      | none =>
        match lookup view h (directoryOf file) specifier with
        | (.error e, h') => (.error e, { h' with resolutions := h.resolutions.countMiss })
        | (.ok answer, h') =>
          let (shared, resolutions) :=
            h.resolutions.countMiss.keep (.new (directoryOf file) specifier) answer
          (.ok shared, { h' with resolutions }) := by
  have hrun : (resolve view specifier file).run h =
      ((h.resolutions.getOrResolve (.new (directoryOf file) specifier) h
          (lookup view · (directoryOf file) specifier)).1,
        { (h.resolutions.getOrResolve (.new (directoryOf file) specifier) h
            (lookup view · (directoryOf file) specifier)).2.2 with
          resolutions := (h.resolutions.getOrResolve (.new (directoryOf file) specifier) h
            (lookup view · (directoryOf file) specifier)).2.1 }) := rfl
  rw [hrun, ResolutionCache.getOrResolve]
  cases h.resolutions.get? (.new (directoryOf file) specifier) with
  | some kept => rfl
  | none =>
      simp only
      cases lookup view h (directoryOf file) specifier with
      | mk answer h' => cases answer <;> rfl

/-- Asking for several references, which ends at the first failure. -/
theorem resolveAll_cons (view : FileView) (file : Path) (specifier : Text) (rest : List Text)
    (h : Host) :
    (resolveAll view file (specifier :: rest)).run h =
      match (resolve view specifier file).run h with
      | (.error e, h') => (.error e, h')
      | (.ok found, h') =>
        match (resolveAll view file rest).run h' with
        | (.error e, h'') => (.error e, h'')
        | (.ok others, h'') => (.ok (found :: others), h'') := by
  rw [resolveAll, run_bind]
  cases (resolve view specifier file).run h with
  | mk found h' =>
      cases found with
      | error e => rfl
      | ok found =>
          simp only
          rw [run_bind]
          cases (resolveAll view file rest).run h' with
          | mk others h'' => cases others <;> rfl

/-! ### Settings -/

/-- Two states of one host: requests change what it remembers, not what it was made with. -/
structure SameSettings (h h' : Host) : Prop where
  config : h'.config = h.config
  libDir : h'.libDir = h.libDir

theorem SameSettings.refl (h : Host) : SameSettings h h := ⟨rfl, rfl⟩

theorem SameSettings.trans {h h' h'' : Host} (a : SameSettings h h') (b : SameSettings h' h'') :
    SameSettings h h'' :=
  ⟨b.config.trans a.config, b.libDir.trans a.libDir⟩

theorem SameSettings.defaultLibrary {h h' : Host} (s : SameSettings h h') :
    h'.defaultLibrary = h.defaultLibrary := by
  rw [Host.defaultLibrary, Host.defaultLibrary, s.config, s.libDir]

variable (view : FileView)

theorem sameSettings_snapshot (path : Path) (h : Host) :
    SameSettings h ((snapshot view path).run h).2 := ⟨rfl, rfl⟩

theorem sameSettings_text (id : Nat) (h : Host) : SameSettings h ((text view id).run h).2 :=
  ⟨rfl, rfl⟩

theorem sameSettings_lookup (directory : Path) (specifier : Text) (h : Host) :
    SameSettings h (lookup view h directory specifier).2 := by
  unfold lookup
  split
  · exact ⟨rfl, rfl⟩
  · exact ⟨rfl, rfl⟩

theorem sameSettings_resolve (specifier : Text) (file : Path) (h : Host) :
    SameSettings h ((resolve view specifier file).run h).2 := by
  rw [resolve_run]
  cases h.resolutions.get? (.new (directoryOf file) specifier) with
  | some kept => exact ⟨rfl, rfl⟩
  | none =>
      have hs := sameSettings_lookup view (directoryOf file) specifier h
      generalize lookup view h (directoryOf file) specifier = run at hs ⊢
      obtain ⟨answer, h'⟩ := run
      cases answer <;> exact ⟨hs.config, hs.libDir⟩

theorem sameSettings_resolveAll (file : Path) (specifiers : List Text) (h : Host) :
    SameSettings h ((resolveAll view file specifiers).run h).2 := by
  induction specifiers generalizing h with
  | nil => exact .refl h
  | cons specifier rest ih =>
      rw [resolveAll_cons]
      have hs := sameSettings_resolve view specifier file h
      generalize (resolve view specifier file).run h = run at hs ⊢
      obtain ⟨found, h'⟩ := run
      cases found with
      | error e => exact hs
      | ok found =>
          have hr := ih h'
          simp only
          generalize (resolveAll view file rest).run h' = run at hr ⊢
          obtain ⟨others, h''⟩ := run
          cases others <;> exact hs.trans hr

/-! ### Snapshots -/

theorem lookup_withSnapshots (directory : Path) (specifier : Text) (h : Host)
    (t : SnapshotTable) :
    lookup view { h with snapshots := t } directory specifier =
      ((lookup view h directory specifier).1,
        { (lookup view h directory specifier).2 with snapshots := t }) := by
  unfold lookup
  split <;> rfl

theorem resolve_withSnapshots (specifier : Text) (file : Path) (h : Host) (t : SnapshotTable) :
    (resolve view specifier file).run { h with snapshots := t } =
      (((resolve view specifier file).run h).1,
        { ((resolve view specifier file).run h).2 with snapshots := t }) := by
  rw [resolve_run, resolve_run, lookup_withSnapshots]
  simp only
  cases h.resolutions.get? (.new (directoryOf file) specifier) with
  | some kept => rfl
  | none =>
      generalize lookup view h (directoryOf file) specifier = run
      obtain ⟨answer, h'⟩ := run
      cases answer <;> rfl

/-- **Requests for references** do not look at snapshots. -/
theorem resolveAll_withSnapshots (file : Path) (specifiers : List Text) (h : Host)
    (t : SnapshotTable) :
    (resolveAll view file specifiers).run { h with snapshots := t } =
      (((resolveAll view file specifiers).run h).1,
        { ((resolveAll view file specifiers).run h).2 with snapshots := t }) := by
  induction specifiers generalizing h with
  | nil => rfl
  | cons specifier rest ih =>
      rw [resolveAll_cons, resolveAll_cons, resolve_withSnapshots]
      generalize (resolve view specifier file).run h = run
      obtain ⟨found, h'⟩ := run
      cases found with
      | error e => rfl
      | ok found =>
          simp only
          rw [ih]
          generalize (resolveAll view file rest).run h' = run
          obtain ⟨others, h''⟩ := run
          cases others <;> rfl

theorem snapshots_resolve (specifier : Text) (file : Path) (h : Host) :
    ((resolve view specifier file).run h).2.snapshots = h.snapshots :=
  congrArg (·.2.snapshots) (resolve_withSnapshots view specifier file h h.snapshots)

/-- Requests for references open no snapshots. -/
theorem snapshots_resolveAll (file : Path) (specifiers : List Text) (h : Host) :
    ((resolveAll view file specifiers).run h).2.snapshots = h.snapshots :=
  congrArg (·.2.snapshots) (resolveAll_withSnapshots view file specifiers h h.snapshots)

end ImportLint.Host
