import ImportLint.Proofs.Files.Runs
import ImportLint.Proofs.Path.Parents
import ImportLint.Proofs.Resolution.Probes
import ImportLint.Proofs.Session.Memory

/-!
# Sessions — failures lose answers and change none

Any path but that of a manifest can begin to fail and stop failing between two references.  A
probe that fails ends its search with an error, and an error is not kept.  So whatever a host
remembers is what it would have found in the files without the failures.

* `MemoryTree.Troubled`: the files of a tree are as they were, and some paths fail.
* `Troubled.veils`: such a tree shows what the tree without the failures shows, or fails.
* `Host.resolve_veiled`: one reference, asked for through such a view.
* `Host.answers_despite_failures`: any reference, after any run.
-/

namespace ImportLint

/-! ### Trees with failures -/

namespace MemoryTree

variable {files : Table (List Component) Text} {t : MemoryTree}

/-- A tree in which nothing fails. -/
def sound (files : Table (List Component) Text) : MemoryTree := { files }

/-- A path at which a failure leaves the manifests alone. -/
def NoManifest (p : Path) : Prop := p.fileName ≠ some Manifest.fileName

/-- A tree with some files, in which paths other than those of manifests fail, and not by
absence. -/
structure Troubled (files : Table (List Component) Text) (t : MemoryTree) : Prop where
  files_eq : t.files = files
  failures : ∀ p kind, t.failures.get? p.components = some kind →
    kind.isAbsence = false ∧ NoManifest p

theorem troubled_sound (files : Table (List Component) Text) : Troubled files (sound files) where
  files_eq := rfl
  failures _ _ h := by cases h

/-- The changes that make a path fail, in such a way, or make it readable again. -/
def Change.IsTrouble : Change → Prop
  | .write _ _ => False
  | .fail path kind => kind.isAbsence = false ∧ NoManifest path
  | .clear _ => True

theorem Troubled.change (h : Troubled files t) {c : Change} (hc : c.IsTrouble) :
    Troubled files (t.change c) := by
  cases c with
  | write path content => exact hc.elim
  | fail path kind =>
      refine ⟨h.files_eq, fun p kind' hp => ?_⟩
      change (t.failures.insert path.components kind).get? p.components = some kind' at hp
      rw [Table.get?_insert] at hp
      split at hp
      · next hsame =>
        cases hp
        refine ⟨hc.1, ?_⟩
        rw [NoManifest, Path.fileName, hsame]
        exact hc.2
      · exact h.failures p kind' hp
  | clear path =>
      refine ⟨h.files_eq, fun p kind hp => ?_⟩
      change (t.failures.erase path.components).get? p.components = some kind at hp
      rw [Table.get?_erase] at hp
      split at hp
      · cases hp
      · exact h.failures p kind hp

/-- A manifest is read as if nothing failed. -/
theorem Troubled.load (h : Troubled files t) (dir : Path) :
    Manifest.load t.view dir = Manifest.load (sound files).view dir := by
  let p : Path := dir.join ⟨Manifest.fileName⟩
  have hname : p.fileName = some Manifest.fileName := by
    rw [Path.fileName, Path.components_join_name dir (by decide), List.getLast?_concat]
  have hfine : t.failures.get? p.components = none := by
    cases hp : t.failures.get? p.components with
    | none => rfl
    | some kind => exact absurd hname (h.failures p kind hp).2
  have hread : t.view.read p = (sound files).view.read p := by
    change t.read p = (sound files).read p
    unfold read failure?
    rw [hfine, h.files_eq]
    rfl
  unfold Manifest.load
  rw [show dir.join ⟨Manifest.fileName⟩ = p from rfl, hread]

/-- **A tree with failures** shows what it would show without them, or fails. -/
theorem Troubled.veils (h : Troubled files t) : t.view.Veils (sound files).view where
  probe p := by
    rw [fileExists_view, fileExists_view, h.files_eq]
    cases hp : t.failures.get? p.components with
    | none => exact Or.inl rfl
    | some kind =>
        simp only [(h.failures p kind hp).1]
        exact Or.inr ⟨_, rfl⟩
  load := funext h.load

theorem calm_sound (files : Table (List Component) Text) : (sound files).view.Calm :=
  FileView.calm_of_fileExists fun p e h => by
    rw [fileExists_view] at h
    cases h

/-- What fails in a tree is a path with a failure. -/
theorem failure_of_fileExists {p : Path} {e : LintError} (h : t.view.fileExists p = .error e) :
    ∃ kind, t.failures.get? p.components = some kind ∧ e = .stat p ⟨kind, p.toString⟩ := by
  rw [fileExists_view] at h
  split at h
  · next kind hk =>
    split at h
    · cases h
    · cases h
      exact ⟨kind, hk, rfl⟩
  · cases h

end MemoryTree

/-! ### One reference -/

namespace Host

variable {view veiled : FileView}

/-- What a reference leads to, through a veil: the same, or one of its probes fails. -/
theorem outcome_veiled (hv : veiled.Veils view) (origin : Host) (directory : Path)
    (specifier : Text) :
    outcome veiled origin directory specifier = outcome view origin directory specifier ∨
      ∃ p e, veiled.fileExists p = .error e ∧
        outcome veiled origin directory specifier = .error e := by
  unfold outcome
  rw [hv.load]
  obtain h | ⟨p, -, e, he, h⟩ := hv.firstDecisive
    ((origin.question directory specifier).candidates (Manifest.load view))
  · exact Or.inl (congrArg (Except.map _) h)
  · exact Or.inr ⟨p, e, he, congrArg (Except.map _) h⟩

/-- Looking a reference up leaves the kept answers aside. -/
theorem lookup_withResolutions (view : FileView) (h : Host) (c : ResolutionCache)
    (directory : Path) (specifier : Text) :
    lookup view { h with resolutions := c } directory specifier =
      ((lookup view h directory specifier).1,
        { (lookup view h directory specifier).2 with resolutions := c }) := by
  unfold lookup
  split <;> rfl

/-- A reference is looked up as the veil shows it, and what a host remembers beside the answers
is what it would be without the veil. -/
theorem lookup_veiled (hv : veiled.Veils view) (hc : veiled.Coherent) {origin h : Host}
    (hf : Faithful view origin h) (file : Path) (specifier : Text) :
    (lookup veiled h (directoryOf file) specifier).1 =
        outcome veiled origin (directoryOf file) specifier ∧
      ∀ c, (∀ file specifier kept, c.get? (.new (directoryOf file) specifier) = some kept →
          outcome view origin (directoryOf file) specifier = .ok (kept.map Shared.value)) →
        Faithful view origin
          { (lookup veiled h (directoryOf file) specifier).2 with resolutions := c } := by
  have hknows : ∀ r : Resolver, Resolver.knows veiled r = Resolver.knows view r := fun r => by
    unfold Resolver.knows
    rw [hv.load]
  -- without the kept answers, the host is faithful to the veiled view
  have hempty : Faithful veiled origin { h with resolutions := {} } :=
    { ambient := hf.ambient
      build := hf.build
      roots := hf.roots
      manifests := by rw [hknows, hv.load]; exact hf.manifests
      resolutions := fun _ _ _ hk => by cases hk }
  obtain ⟨ha, hf', -⟩ := lookup_spec hc hempty file specifier
  rw [lookup_withResolutions] at ha hf'
  refine ⟨ha, fun c hkept => ?_⟩
  exact
    { ambient := hf'.ambient
      build := hf'.build
      roots := hf'.roots
      manifests := by rw [← hknows, ← hv.load]; exact hf'.manifests
      resolutions := hkept }

/-- **One reference through a veil**: it is answered as without the veil, or one of its probes
fails; and what is remembered is what the files are without the veil. -/
theorem resolve_veiled (hv : veiled.Veils view) (hc : veiled.Coherent) {origin h : Host}
    (hf : Faithful view origin h) (specifier : Text) (file : Path) :
    (answer veiled h specifier file = outcome view origin (directoryOf file) specifier ∨
        ∃ p e, veiled.fileExists p = .error e ∧ answer veiled h specifier file = .error e) ∧
      Faithful view origin ((resolve veiled specifier file).run h).2 := by
  obtain ⟨ha, hf'⟩ := lookup_veiled hv hc hf file specifier
  have ho := outcome_veiled hv origin (directoryOf file) specifier
  unfold answer
  rw [resolve_run]
  cases hkept : h.resolutions.get? (.new (directoryOf file) specifier) with
  | some kept => exact ⟨Or.inl (hf.resolutions file specifier kept hkept).symm, { hf with }⟩
  | none =>
      rw [← ha] at ho
      generalize lookup veiled h (directoryOf file) specifier = run at ho hf' ⊢
      obtain ⟨found, h'⟩ := run
      simp only at ho hf' ⊢
      cases found with
      | error e => exact ⟨ho, hf' _ hf.resolutions⟩
      | ok found =>
          have ho : outcome view origin (directoryOf file) specifier = .ok found := by
            obtain ho | ⟨p, e, -, ho⟩ := ho
            · exact ho.symm
            · cases ho
          obtain ⟨hv, hkept⟩ := outcome_of_keep hf.resolutions ho
          exact ⟨Or.inl ((congrArg Except.ok hv).trans ho.symm), hf' _ hkept⟩

/-! ### Runs -/

/-- A host that is asked for references. -/
def asking : Machine Host (Text × Path) where
  step view h q := ((resolve view q.1 q.2).run h).2

/-- A reference is asked for, or a path begins or ceases to fail. -/
def IsTrouble : Machine.Event (Text × Path) → Prop
  | .call _ => True
  | .change c => c.IsTrouble

/-- **Failures lose answers and change none.**  Let a host be made for files of which none fails,
and let it be asked for any references while paths other than those of manifests begin and cease
to fail, not by absence.  Then any reference is answered as a new host answers it where nothing
fails; or one of the paths that fail at that moment is reported as such. -/
theorem answers_despite_failures (files : Table (List Component) Text) (config : ProjectConfig)
    (projectRoot : Path) (globals : List Path) (libDir : Option Path)
    (run : List (Machine.Event (Text × Path))) (hrun : ∀ e ∈ run, IsTrouble e) :
    let sound := MemoryTree.sound files
    let new := Host.new sound.view config projectRoot globals libDir
    let now := asking.after ⟨sound, new⟩ run
    ∀ specifier file, ∃ found, answer sound.view new specifier file = .ok found ∧
      (answer now.tree.view now.memory specifier file = .ok found ∨
        ∃ p kind, now.tree.failures.get? p.components = some kind ∧
          answer now.tree.view now.memory specifier file =
            .error (.stat p ⟨kind, p.toString⟩)) := by
  intro sound new now specifier file
  have hnew : Faithful sound.view new new :=
    faithful_new sound.view config projectRoot globals libDir
  have hinv : now.tree.Troubled files ∧ Faithful sound.view new now.memory := by
    refine Machine.invariant_after (P := fun _ => IsTrouble)
      (I := fun s => s.tree.Troubled files ∧ Faithful sound.view new s.memory)
      (fun s e ⟨ht, hf⟩ he => ?_) ⟨MemoryTree.troubled_sound files, hnew⟩
      (Machine.always_of_forall hrun _)
    cases e with
    | call q => exact ⟨ht, (resolve_veiled ht.veils s.tree.coherent hf q.1 q.2).2⟩
    | change c => exact ⟨ht.change he, hf⟩
  obtain ⟨ht, hf⟩ := hinv
  have hfresh : answer sound.view new specifier file =
      outcome sound.view new (directoryOf file) specifier :=
    (resolve_spec sound.coherent hnew specifier file).1
  have hcalm : sound.view.Calm := MemoryTree.calm_sound files
  obtain ⟨found, hfound⟩ : ∃ found, outcome sound.view new (directoryOf file) specifier =
      .ok found :=
    ⟨_, congrArg (Except.map _) (hcalm.firstDecisive _)⟩
  refine ⟨found, hfresh.trans hfound, ?_⟩
  obtain ⟨ha | ⟨p, e, hp, ha⟩, -⟩ :=
    resolve_veiled ht.veils now.tree.coherent hf specifier file
  · exact Or.inl (ha.trans hfound)
  · obtain ⟨kind, hk, rfl⟩ := MemoryTree.failure_of_fileExists hp
    exact Or.inr ⟨p, kind, hk, ha⟩

/-- A file fails while a reference to it is asked for, and then can be read again. -/
def lapse : List (Machine.Event (Text × Path)) :=
  [.change (.fail (.ofString "/p/b.ts") .permissionDenied),
    .call ("./b".toList, .ofString "/p/a.ts"),
    .change (.clear (.ofString "/p/b.ts"))]

/-- The failure of a lapse leaves no trace. -/
theorem answer_after_lapse :
    let new := Host.new oneSource.view default (.ofString "/p") [] none
    let now := asking.after ⟨oneSource, new⟩ lapse
    (∀ e ∈ lapse, IsTrouble e) ∧
      answer now.tree.view now.memory "./b".toList (.ofString "/p/a.ts") =
        .ok (some (.new (.ofString "/p/b.ts") .typeScript false)) := by
  intro new now
  have htrouble : ∀ e ∈ lapse, IsTrouble e := by
    simp [lapse, IsTrouble, MemoryTree.Change.IsTrouble, MemoryTree.NoManifest]
    decide
  have hb : answer oneSource.view new "./b".toList (.ofString "/p/a.ts") =
      .ok (some (.new (.ofString "/p/b.ts") .typeScript false)) := rfl
  obtain ⟨found, hfound, hnow | ⟨p, kind, hk, -⟩⟩ :=
    answers_despite_failures oneSource.files default (.ofString "/p") [] none lapse htrouble
      "./b".toList (.ofString "/p/a.ts")
  · exact ⟨htrouble, hnow.trans (hfound.symm.trans hb)⟩
  · -- nothing fails any more
    cases hk

end Host

end ImportLint
